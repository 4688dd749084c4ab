import Mathlib.Data.List.Forall2
import Demarcation.Proofs.CallOrder

namespace Demarcation

open Grammar

/-- Two lists hold related members, not always in the same order. -/
def Matches {α β : Type} (r : α → β → Bool) (as : List α) (bs : List β) : Prop :=
  ∃ cs : List β, List.Forall₂ (fun a c => r a c = true) as cs ∧ cs.Perm bs

theorem Matches.flatMap_perm {α β γ : Type} {r : α → β → Bool} {as : List α} {bs : List β} (h : Matches r as bs)
    {f : α → List γ} {g : β → List γ} (hfg : ∀ a b, r a b = true → f a = g b) :
    (as.flatMap f).Perm (bs.flatMap g) := by
  obtain ⟨cs, hmatch, hperm⟩ := h
  have hsame : as.flatMap f = cs.flatMap g := by
    induction hmatch generalizing bs with
    | nil => rfl
    | @cons a c as cs hac _ ih => rw [List.flatMap_cons, List.flatMap_cons, hfg a c hac, ih (.refl cs)]
  rw [hsame]
  exact hperm.flatMap_right g

theorem flatMap_filter_eq {α β : Type} {p : α → Bool} {f : α → List β} (h : ∀ a, p a = false → f a = []) (l : List α) :
    (l.filter p).flatMap f = l.flatMap f := by
  induction l with
  | nil => rfl
  | cons a l ih =>
    cases hp : p a with
    | true => rw [List.filter_cons_of_pos hp, List.flatMap_cons, List.flatMap_cons, ih]
    | false => rw [List.filter_cons_of_neg (by simp [hp]), List.flatMap_cons, h a hp, ih, List.nil_append]

namespace Python

/-! ### Names and texts -/

def isNaming (t : Tree) : Bool := t.kind == .identifier || t.kind == .attribute || t.kind == .call

def Strict.isNaming (n : Strict.Node) : Bool :=
  match n.shape with
  | .name _ | .attribute _ _ | .call _ => true
  | _ => false

def sameHead : Tree → Strict.Node → Bool
  | .node .identifier _ source size _, .node (.name id) _ => String.ofList (source.take size) == id
  | .node .attribute _ _ _ [object, name], .node (.attribute id _) [object'] => name.text == id && sameHead object object'
  | .node .call _ _ _ (function :: _), .node (.call _) (function' :: _) => sameHead function function'
  | t, n => !isNaming t && !Strict.isNaming n

inductive MapperArgument where
  | text (s : String)
  | name (id : String)
deriving DecidableEq

def firstArgument? : Tree → Option MapperArgument
  | .node .call _ _ _ [_, arguments] => do
    let first ← arguments.first?
    if first.kind == .string then return .text (stringValue first)
    else if first.kind == .identifier then return .name first.text
    else none
  | _ => none

def Strict.string? : Node → Option String
  | .node (.constant (.string s _)) _ => some s
  | _ => none

def Strict.firstArgument? : Node → Option MapperArgument
  | .node (.call positional) (_ :: first :: _) =>
    if positional = 0 then none
    else
      match first.shape with
      | .constant (.string s _) => some (.text s)
      | .name id => some (.name id)
      | _ => none
  | _ => none

def method? : Tree → Option String
  | .node .call _ _ _ (.node .attribute _ _ _ [_, method] :: _) => some method.text
  | _ => none

def Strict.method? : Node → Option String
  | .node (.call _) (.node (.attribute method _) _ :: _) => some method
  | _ => none

def takesTable (method : String) : Bool := tableMethods.contains method || modelMethods.contains method

/-- Whether two nodes are the same text, or calls of the same; those of a method that takes a table or a model with the
same first argument. -/
def sameUse : Tree → Strict.Node → Bool
  | .node .call line source size (function :: rest), .node (.call positional) (function' :: rest') =>
    let t := .node .call line source size (function :: rest)
    sameHead function function' &&
      (!(method? t).any takesTable ||
        firstArgument? t == Strict.firstArgument? (.node (.call positional) (function' :: rest')))
  | t, n => t.kind == .string && Strict.string? n == some (stringValue t)

theorem attributeNames_eq {t : Tree} {n : Strict.Node} (h : sameHead t n = true) :
    attributeNames t = Strict.attributeNames n := by
  fun_induction sameHead t n with
  | case1 => simpa [attributeNames, Strict.attributeNames] using h
  | case2 line source size object name id apart object' ih =>
    simp only [Bool.and_eq_true, beq_iff_eq] at h
    rw [attributeNames, Strict.attributeNames, ih h.2, h.1]
  | case3 => simp [attributeNames, Strict.attributeNames]
  | case4 t n =>
    simp only [Bool.and_eq_true, Bool.not_eq_true'] at h
    rw [attributeNames.eq_def, Strict.attributeNames.eq_def]
    split
    · simp [isNaming, Tree.kind] at h
    · simp [isNaming, Tree.kind] at h
    · split
      · simp [Strict.isNaming, Strict.Node.shape] at h
      · simp [Strict.isNaming, Strict.Node.shape] at h
      · rfl

theorem callName?_eq {t : Tree} {n : Strict.Node} (h : sameHead t n = true) : callName? t = Strict.callName? n := by
  have hnames := attributeNames_eq h
  fun_induction sameHead t n with
  | case1 => simpa [callName?, Strict.callName?] using h
  | case2 => rw [callName?, Strict.callName?, hnames]
  | case3 line source size function rest positional function' rest' ih =>
    rw [callName?, Strict.callName?]
    exact ih h (attributeNames_eq h)
  | case4 t n =>
    simp only [Bool.and_eq_true, Bool.not_eq_true'] at h
    rw [callName?.eq_def, Strict.callName?.eq_def]
    split
    · simp [isNaming, Tree.kind] at h
    · simp [isNaming, Tree.kind] at h
    · simp [isNaming, Tree.kind] at h
    · split
      · simp [Strict.isNaming, Strict.Node.shape] at h
      · simp [Strict.isNaming, Strict.Node.shape] at h
      · simp [Strict.isNaming, Strict.Node.shape] at h
      · rfl

def tableOf? (method : String) : MapperArgument → Option String
  | .text s => if tableMethods.contains method then some s else none
  | .name id => if modelMethods.contains method then some (Text.snakeCase id) else none

theorem bind_tableOf?_eq_none {method : String} (h : takesTable method = false) (argument : Option MapperArgument) :
    argument.bind (tableOf? method) = none := by
  rw [takesTable, Bool.or_eq_false_iff] at h
  rcases argument with _ | (s | id)
  · rfl
  · rw [Option.bind_some, tableOf?, h.1, if_neg Bool.false_ne_true]
  · rw [Option.bind_some, tableOf?, h.2, if_neg Bool.false_ne_true]

theorem mappedTable?_eq (t : Tree) :
    mappedTable? t = (method? t).bind fun method => (firstArgument? t).bind (tableOf? method) := by
  rw [mappedTable?.eq_def]
  split
  · next method arguments =>
    rw [method?, firstArgument?]
    cases arguments.first? with
    | none => rfl
    | some first =>
      by_cases hstring : first.kind = .string
      · simp [hstring, tableOf?]
      · by_cases hname : first.kind = .identifier
        · simp [hname, tableOf?]
        · simp [hstring, hname]
  · next hother =>
    rw [method?.eq_def]
    split
    · next line source size l s n object method rest =>
      rw [firstArgument?.eq_def]
      split
      · next heq => cases heq; exact absurd rfl (hother _ _ _ _ _ _ _ _ _)
      · rfl
    · rfl

theorem Strict.mappedTable?_eq (n : Node) :
    mappedTable? n = (method? n).bind fun method => (firstArgument? n).bind (tableOf? method) := by
  rw [mappedTable?.eq_def]
  split
  · next positional method apart object first rest =>
    rw [method?, firstArgument?]
    split
    · rfl
    · cases first.shape with
      | constant c => cases c <;> rfl
      | _ => rfl
  · next hother =>
    rw [method?.eq_def]
    split
    · next positional method apart object rest =>
      cases rest with
      | nil => rfl
      | cons first rest => exact absurd rfl (hother _ _ _ _ _ _)
    · rfl

theorem method?_eq {line size : Nat} {source : List Char} {function : Tree} {rest : List Tree} {positional : Nat}
    {function' : Strict.Node} {rest' : List Strict.Node} (h : sameHead function function' = true) :
    method? (.node .call line source size (function :: rest)) =
      Strict.method? (.node (.call positional) (function' :: rest')) := by
  fun_cases sameHead function function' with
  | case1 => rfl
  | case2 =>
    simp only [sameHead, Bool.and_eq_true, beq_iff_eq] at h
    simp only [method?, Strict.method?, h.1]
  | case3 => rfl
  | case4 =>
    rw [sameHead] at h
    · simp only [Bool.and_eq_true, Bool.not_eq_true'] at h
      have htree : method? (.node .call line source size (function :: rest)) = none := by
        rw [method?.eq_def]
        split
        · next heq => cases heq; simp [isNaming, Tree.kind] at h
        · rfl
      have hnode : Strict.method? (.node (.call positional) (function' :: rest')) = none := by
        rw [Strict.method?.eq_def]
        split
        · next heq => cases heq; simp [Strict.isNaming, Strict.Node.shape] at h
        · rfl
      rw [htree, hnode]
    all_goals assumption

theorem Strict.shape_of_string? {n : Node} {s : String} (h : string? n = some s) :
    ∃ marked, n.shape = .constant (.string s marked) := by
  rw [string?.eq_def] at h
  split at h
  · next s' marked children => exact ⟨marked, by rw [Node.shape, Option.some.inj h]⟩
  · cases h

theorem calledName?_of_kind_ne {t : Tree} (h : t.kind ≠ .call) : calledName? t = none := by
  rw [calledName?.eq_def]
  split
  · exact absurd rfl h
  · rfl

theorem Strict.calledName?_of_shape_ne {n : Node} (h : ∀ positional, n.shape ≠ .call positional) :
    calledName? n = none := by
  rw [calledName?.eq_def]
  split
  · exact absurd rfl (h _)
  · rfl

theorem mappedTable?_of_kind_ne {t : Tree} (h : t.kind ≠ .call) : mappedTable? t = none := by
  rw [mappedTable?.eq_def]
  split
  · exact absurd rfl h
  · rfl

theorem Strict.mappedTable?_of_shape_ne {n : Node} (h : ∀ positional, n.shape ≠ .call positional) :
    mappedTable? n = none := by
  rw [mappedTable?.eq_def]
  split
  · exact absurd rfl (h _)
  · rfl

theorem calledName?_eq {t : Tree} {n : Strict.Node} (h : sameUse t n = true) : calledName? t = Strict.calledName? n := by
  fun_cases sameUse t n with
  | case1 =>
    rw [sameUse, Bool.and_eq_true] at h
    rw [calledName?, Strict.calledName?, callName?_eq h.1]
  | case2 t n hcalls =>
    rw [sameUse] at h
    · simp only [Bool.and_eq_true, beq_iff_eq] at h
      obtain ⟨marked, hshape⟩ := Strict.shape_of_string? h.2
      rw [calledName?_of_kind_ne (by simp [h.1]), Strict.calledName?_of_shape_ne (by simp [hshape])]
    assumption

theorem tablesAt_eq {t : Tree} {n : Strict.Node} (h : sameUse t n = true) : tablesAt t = Strict.tablesAt n := by
  fun_cases sameUse t n with
  | case1 line source size function rest positional function' rest' =>
    rw [sameUse, Bool.and_eq_true] at h
    obtain ⟨hhead, hargument⟩ := h
    have hmapped : mappedTable? (.node .call line source size (function :: rest)) =
        Strict.mappedTable? (.node (.call positional) (function' :: rest')) := by
      rw [mappedTable?_eq, Strict.mappedTable?_eq, method?_eq hhead]
      rw [method?_eq hhead] at hargument
      -- The first arguments need not be the same if the method takes no table, and no table is read from them then.
      cases hmethod : Strict.method? (.node (.call positional) (function' :: rest')) with
      | none => rfl
      | some method =>
        rw [hmethod, Option.any_some] at hargument
        cases htakes : takesTable method with
        | true =>
          rw [htakes, Bool.not_true, Bool.false_or, beq_iff_eq] at hargument
          rw [hargument]
        | false => rw [Option.bind_some, Option.bind_some, bind_tableOf?_eq_none htakes, bind_tableOf?_eq_none htakes]
    exact congrArg Option.toList hmapped
  | case2 t n hcalls =>
    rw [sameUse] at h
    · simp only [Bool.and_eq_true, beq_iff_eq] at h
      obtain ⟨marked, hshape⟩ := Strict.shape_of_string? h.2
      rw [tablesAt, if_pos (by simp [h.1]), Strict.tablesAt, hshape]
    assumption

def isUse (t : Tree) : Bool := t.kind == .call || t.kind == .string && !(sqlTables (stringValue t)).isEmpty

def Strict.isUse (n : Node) : Bool :=
  match n.shape with
  | .call _ => true
  | .constant (.string s _) => !(sqlTables s).isEmpty
  | _ => false

def uses (t : Tree) : List Tree := (bodyOutline t).filter isUse

def Strict.uses (f : Node.Function) : List Node := (bodyOutline f).filter isUse

section

variable {t : Tree} {f : Strict.Node.Function}

theorem flatMap_uses (t : Tree) :
    (uses t).flatMap (fun u => (calledName? u).toList) = calledNames t ∧ (uses t).flatMap tablesAt = namedTables t := by
  rw [uses, calledNames, List.filterMap_eq_flatMap_toList, namedTables]
  constructor
  · refine flatMap_filter_eq (fun u hu => ?_) _
    rw [isUse, Bool.or_eq_false_iff, beq_eq_false_iff_ne] at hu
    rw [calledName?_of_kind_ne hu.1, Option.toList_none]
  · refine flatMap_filter_eq (fun u hu => ?_) _
    rw [isUse, Bool.or_eq_false_iff, beq_eq_false_iff_ne] at hu
    rw [tablesAt]
    split
    · next hstring => simpa [hstring] using hu.2
    · rw [mappedTable?_of_kind_ne hu.1, Option.toList_none]

theorem Strict.flatMap_uses (f : Node.Function) :
    (uses f).flatMap (fun u => (calledName? u).toList) = calledNames f ∧ (uses f).flatMap tablesAt = namedTables f := by
  have hnot {u : Node} (hu : isUse u = false) (positional : Nat) : u.shape ≠ .call positional := by
    intro hcall
    simp [isUse, hcall] at hu
  rw [uses, calledNames, List.filterMap_eq_flatMap_toList, namedTables]
  constructor
  · refine flatMap_filter_eq (fun u hu => ?_) _
    rw [calledName?_of_shape_ne (hnot hu), Option.toList_none]
  · refine flatMap_filter_eq (fun u hu => ?_) _
    rw [tablesAt]
    split
    · next hshape => simpa [isUse, hshape] using hu
    · rw [mappedTable?_of_shape_ne (hnot hu), Option.toList_none]

theorem calledNames_perm (h : Matches sameUse (uses t) (Strict.uses f)) :
    (calledNames t).Perm (Strict.calledNames f) := by
  rw [← (flatMap_uses t).1, ← (Strict.flatMap_uses f).1]
  exact h.flatMap_perm fun t n h => by rw [calledName?_eq h]

theorem namedTables_perm (h : Matches sameUse (uses t) (Strict.uses f)) :
    (namedTables t).Perm (Strict.namedTables f) := by
  rw [← (flatMap_uses t).2, ← (Strict.flatMap_uses f).2]
  exact h.flatMap_perm fun t n h => tablesAt_eq h

end

/-! ### Types -/

def isTypePart (t : Tree) : Bool := t.kind == .identifier || t.kind == .string

def Strict.isTypePart (n : Node) : Bool :=
  match n.shape with
  | .name _ => true
  | .attribute _ _ => true
  | .constant (.string _ _) => true
  | _ => false

def typeParts (t : Tree) : List Tree := (Tree.visit (·.kind == .string) [t]).filter isTypePart

def Strict.typeParts (n : Node) : List Node := (Node.visit (fun _ => false) [n]).filter isTypePart

def sameTypePart (t : Tree) (n : Strict.Node) : Bool :=
  match n.shape with
  | .name id => t.kind == .identifier && t.text == id
  | .attribute id _ => t.kind == .identifier && t.text == id
  | .constant (.string s _) => t.kind == .string && stringValue t == s
  | _ => false

def SameType (t : Tree) (n : Strict.Node) : Prop := Matches sameTypePart (typeParts t) (Strict.typeParts n)

structure SameCanonical (t : Tree) (n : Strict.Node) : Prop where
  text : t.text = n.canonical
  type : SameType t n

theorem of_sameTypePart {t : Tree} {n : Strict.Node} (h : sameTypePart t n = true) :
    (t.kind = .identifier ∧ (n.shape = .name t.text ∨ ∃ apart, n.shape = .attribute t.text apart)) ∨
      t.kind = .string ∧ ∃ marked, n.shape = .constant (.string (stringValue t) marked) := by
  rw [sameTypePart] at h
  split at h
  · next hshape =>
    simp only [Bool.and_eq_true, beq_iff_eq] at h
    exact .inl ⟨h.1, .inl (by rw [hshape, h.2])⟩
  · next hshape =>
    simp only [Bool.and_eq_true, beq_iff_eq] at h
    exact .inl ⟨h.1, .inr ⟨_, by rw [hshape, h.2]⟩⟩
  · next hshape =>
    simp only [Bool.and_eq_true, beq_iff_eq] at h
    exact .inr ⟨h.1, _, by rw [hshape, h.2]⟩
  · cases h

theorem typeNames_perm {t : Tree} {n : Strict.Node} (h : SameType t n) : (typeNames t).Perm (Strict.typeNames n) := by
  rw [typeNames, Strict.typeNames, ← flatMap_filter_eq (p := isTypePart) fun u hu => ?_,
    ← flatMap_filter_eq (p := Strict.isTypePart) fun u hu => ?_]
  · refine (Matches.flatMap_perm h fun u v huv => ?_).filter _
    obtain ⟨hkind, hshape | ⟨apart, hshape⟩⟩ | ⟨hkind, marked, hshape⟩ := of_sameTypePart huv
    · simp only [hkind, hshape]
    · simp only [hkind, hshape]
    · simp only [hkind, hshape]
  · split
    · next hshape => simp [Strict.isTypePart, hshape] at hu
    · next hshape => simp [Strict.isTypePart, hshape] at hu
    · next hshape => simp [Strict.isTypePart, hshape] at hu
    · rfl
  · split
    · next hkind => simp [isTypePart, hkind] at hu
    · next hkind => simp [isTypePart, hkind] at hu
    · rfl

/-! ### Base classes -/

def isBase (t : Tree) : Bool := t.kind == .identifier || t.kind == .attribute || t.kind == .subscript

def Strict.isBase (n : Node) : Bool :=
  match n.shape with
  | .name _ => true
  | .attribute _ _ => true
  | .subscript _ => true
  | _ => false

def sameBase : Tree → Strict.Node → Bool
  | .node .identifier _ source size _, .node (.name id) _ => String.ofList (source.take size) == id
  | .node .attribute _ _ _ [_, name], .node (.attribute id _) _ => name.text == id
  | .node .subscript _ _ _ (value :: _), .node (.subscript _) (value' :: _) => sameBase value value'
  | t, n => !isBase t && !Strict.isBase n

theorem baseName_eq {t : Tree} {n : Strict.Node} (h : sameBase t n = true) : baseName t = Strict.baseName n := by
  fun_induction sameBase t n with
  | case1 => simpa [baseName, Strict.baseName] using h
  | case2 => simpa [baseName, Strict.baseName] using h
  | case3 _ _ _ _ _ _ _ _ ih => rw [baseName, Strict.baseName, ih h]
  | case4 t n =>
    simp only [Bool.and_eq_true, Bool.not_eq_true'] at h
    rw [baseName.eq_def, Strict.baseName.eq_def]
    split
    · simp [isBase, Tree.kind] at h
    · simp [isBase, Tree.kind] at h
    · simp [isBase, Tree.kind] at h
    · split
      · simp [Strict.isBase, Strict.Node.shape] at h
      · simp [Strict.isBase, Strict.Node.shape] at h
      · simp [Strict.isBase, Strict.Node.shape] at h
      · rfl

def sameKeyword (t : Tree) : Strict.Node → Bool
  | .node (.keyword (some id)) [value'] =>
    match t.children with
    | [name, value] => name.text == id && sameBase value value'
    | _ => false
  | _ => false

theorem exists_of_sameKeyword {t : Tree} {n : Strict.Node} (h : sameKeyword t n = true) :
    ∃ name value id value', t.children = [name, value] ∧ n = .node (.keyword (some id)) [value'] ∧ name.text = id ∧
      sameBase value value' = true := by
  rw [sameKeyword.eq_def] at h
  split at h
  · next id value' =>
    split at h
    · next name value hchildren =>
      simp only [Bool.and_eq_true, beq_iff_eq] at h
      exact ⟨name, value, id, value', hchildren, rfl, h⟩
    · cases h
  · cases h

end Python

end Demarcation
