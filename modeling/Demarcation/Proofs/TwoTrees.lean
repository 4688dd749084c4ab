import Demarcation.Proofs.OperationWords
import Demarcation.Proofs.SameNodes

/-!
What the two readers of Python make of one module. A syntax tree and an abstract syntax tree are those of one module if
they hold the same definitions, and these the same names, texts and calls in places that answer each other
(`SameModule`). The two readers then find declarations that differ at most in the order of the names in them
(`declarations_agree`).
-/

namespace Demarcation

open Grammar

theorem perm_flatMap_of_forall₂ {α β γ : Type} {r : α → β → Prop} {f : α → List γ} {g : β → List γ}
    (hfg : ∀ a b, r a b → (f a).Perm (g b)) {as : List α} {bs : List β} (h : List.Forall₂ r as bs) :
    (as.flatMap f).Perm (bs.flatMap g) := by
  induction h with
  | nil => exact .refl _
  | cons hab _ ih => exact (hfg _ _ hab).append ih

theorem map_eq_of_forall₂ {α β γ : Type} {r : α → β → Prop} {f : α → γ} {g : β → γ} (hfg : ∀ a b, r a b → f a = g b)
    {as : List α} {bs : List β} (h : List.Forall₂ r as bs) : as.map f = bs.map g := by
  rw [← List.forall₂_eq_eq_eq]
  exact List.rel_map hfg h

theorem any_eq_of_forall₂ {α β : Type} {r : α → β → Prop} {p : α → Bool} {q : β → Bool} (hpq : ∀ a b, r a b → p a = q b)
    {as : List α} {bs : List β} (h : List.Forall₂ r as bs) : as.any p = bs.any q := by
  induction h with
  | nil => rfl
  | cons hab _ ih => rw [List.any_cons, List.any_cons, hpq _ _ hab, ih]

theorem filterMap_eq_of_forall₂ {α β γ : Type} {r : α → β → Prop} {f : α → Option γ} {g : β → Option γ}
    (hfg : ∀ a b, r a b → f a = g b) {as : List α} {bs : List β} (h : List.Forall₂ r as bs) :
    as.filterMap f = bs.filterMap g := by
  induction h with
  | nil => rfl
  | cons hab _ ih => rw [List.filterMap_cons, List.filterMap_cons, hfg _ _ hab, ih]

/-- Two declarations differ at most in the order of the names they call, access and refer to. -/
structure Declaration.Agrees (d e : Declaration) : Prop where
  kind : d.kind = e.kind
  name : d.name = e.name
  file : d.file = e.file
  line : d.line = e.line
  members : d.members = e.members
  owner : d.owner = e.owner
  calls : d.calls.Perm e.calls
  tables : d.tables.Perm e.tables
  references : d.references.Perm e.references

structure Extraction.Agrees (x y : Extraction) : Prop where
  structs : List.Forall₂ Declaration.Agrees x.structs y.structs
  interfaces : List.Forall₂ Declaration.Agrees x.interfaces y.interfaces
  functions : List.Forall₂ Declaration.Agrees x.functions y.functions
  accesses : x.accesses.Perm y.accesses

theorem inferOperation_perm {calls called : List String} (h : calls.Perm called) (function : String) :
    inferOperation function calls = inferOperation function called := by
  have hsaid (word : String) : SaidBy (function :: calls) word ↔ SaidBy (function :: called) word :=
    exists_congr fun _ => and_congr_left' (h.cons function).mem_iff
  simp only [inferOperation_eq, hsaid]

theorem Declaration.Agrees.accesses {d e : Declaration} (h : d.Agrees e) : d.accesses.Perm e.accesses := by
  rw [Declaration.accesses, Declaration.accesses, h.name, h.file, inferOperation_perm h.calls]
  exact h.tables.map _

namespace Python

/-! ### Functions -/

structure SameParameter (p : String × Option Tree) (q : String × Option Strict.Node) : Prop where
  name : p.1 = q.1
  type : Option.Rel SameCanonical p.2 q.2

def namedParameters (t : Tree) : List (String × Option Tree) :=
  ((t.child? .parameters).toList.flatMap (·.children)).filterMap parameterOf?

def Strict.namedParameters (f : Node.Function) : List (String × Option Node) :=
  f.parameters.singleParameters.filterMap Node.parameter?

structure SameFunction (t : Tree) (f : Strict.Node.Function) : Prop where
  name : t.textOf .identifier = f.name
  line : t.line = f.line
  parameters : List.Forall₂ SameParameter (namedParameters t) (Strict.namedParameters f)
  result : Option.Rel SameType (t.child? .result) f.result
  uses : Matches sameUse (uses t) (Strict.uses f)

theorem SameFunction.parametersOf {t : Tree} {f : Strict.Node.Function} (h : SameFunction t f) :
    List.Forall₂ SameParameter (parametersOf t) (Strict.parametersIn f) := by
  refine List.rel_filter (fun p q hpq => ?_) h.parameters
  simp [hpq.name]

theorem perm_of_rel {r : Tree → Strict.Node → Prop} {α : Type} {f : Tree → List α} {g : Strict.Node → List α}
    (hfg : ∀ t n, r t n → (f t).Perm (g n)) {t : Option Tree} {n : Option Strict.Node} (h : Option.Rel r t n) :
    (t.toList.flatMap f).Perm (n.toList.flatMap g) := by
  cases h with
  | none => exact .refl _
  | some h => simpa using hfg _ _ h

theorem SameParameter.member {p : String × Option Tree} {q : String × Option Strict.Node} (h : SameParameter p q) :
    (⟨p.1, (p.2.map (·.text)).getD ""⟩ : Member) = ⟨q.1, (q.2.map Strict.Node.canonical).getD ""⟩ := by
  obtain ⟨name, p⟩ := p
  obtain ⟨name', q⟩ := q
  obtain ⟨rfl, htype⟩ := h
  cases htype with
  | none => rfl
  | some htype => rw [Option.map_some, Option.map_some, htype.text]

theorem functionOf_agrees (file : String) (owner : Option String) {t : Tree} {f : Strict.Node.Function}
    (h : SameFunction t f) : (functionOf file owner t).Agrees (Strict.functionOf file owner f) where
  kind := rfl
  name := h.name
  file := rfl
  line := congrArg Int.ofNat h.line
  members := map_eq_of_forall₂ (fun _ _ hpq => hpq.member) h.parametersOf
  owner := rfl
  calls := calls_perm file owner (calledNames_perm h.uses)
  tables := tables_perm file owner (namedTables_perm h.uses)
  references := by
    have hparameters := perm_flatMap_of_forall₂ (fun _ _ hpq => perm_of_rel (fun _ _ ht => typeNames_perm ht.type) hpq.type)
      h.parametersOf
    have hresult := perm_of_rel (fun _ _ ht => typeNames_perm ht) h.result
    exact perm_distinctNames (((hparameters.append_left _).append hresult).filter _)

/-! ### Classes -/

def baseTrees (t : Tree) : List Tree :=
  ((t.child? .arguments).toList.flatMap (·.children)).filter (·.kind != .keywordArgument)

def keywordTrees (t : Tree) : List Tree := (t.child? .arguments).toList.flatMap (·.childrenOf .keywordArgument)

def bodyTrees (t : Tree) : List Tree := (t.child? .block).toList.flatMap (·.children)

def Strict.isAbstract (c : Node.Class) : Bool :=
  (c.bases.map baseName).any interfaceBases.contains || hasAbstractMetaclass c

/-- The same statement of a class, which is abstract or not. The methods of an abstract class are written in their
canonical form. -/
inductive SameMember (abstract : Bool) (t : Tree) (n : Strict.Node) : Prop where
  | method {f : Strict.Node.Function} (kind : (undecorated t).kind = .function) (function : n.function? = some f)
      (same : SameFunction (undecorated t) f)
      (signature : abstract = true → signatureText (undecorated t) = Strict.signatureText f)
  | field {target type : Tree} {type' : Strict.Node} (declared : declaredVariable? t = some (target, type))
      (declared' : n.declaredVariable? = some (target.text, type')) (same : SameCanonical type type')
  | other (kind : (undecorated t).kind ≠ .function) (function : n.function? = none)
      (declared : declaredVariable? t = none) (declared' : n.declaredVariable? = none)

structure SameClass (t : Tree) (c : Strict.Node.Class) : Prop where
  name : t.textOf .identifier = c.name
  line : t.line = c.line
  bases : List.Forall₂ (fun b b' => sameBase b b' = true) (baseTrees t) c.bases
  keywords : List.Forall₂ (fun k k' => sameKeyword k k' = true) (keywordTrees t) c.keywords
  body : List.Forall₂ (SameMember (Strict.isAbstract c)) (bodyTrees t) c.body

theorem undecorated_of_expression {t : Tree} (h : t.kind = .expressionStatement) : undecorated t = t := by
  rw [undecorated, if_neg (by simp [h])]

theorem kind_of_declaredVariable? {t : Tree} {v : Tree × Tree} (h : declaredVariable? t = some v) :
    t.kind = .expressionStatement := by
  by_contra hkind
  rw [declaredVariable?, if_pos (by simpa using hkind)] at h
  cases h

theorem Strict.function?_of_declaredVariable? {n : Node} {v : String × Node} (h : n.declaredVariable? = some v) :
    n.function? = none := by
  rw [Node.declaredVariable?.eq_def] at h
  split at h
  · rfl
  · cases h

theorem declaredVariable?_of_undecorated {t : Tree} (h : (undecorated t).kind = .function) : declaredVariable? t = none := by
  cases hdeclared : declaredVariable? t with
  | none => rfl
  | some v =>
    have hkind := kind_of_declaredVariable? hdeclared
    rw [undecorated_of_expression hkind, hkind] at h
    cases h

theorem Strict.declaredVariable?_of_function? {n : Node} {f : Node.Function} (h : n.function? = some f) :
    n.declaredVariable? = none := by
  cases hdeclared : n.declaredVariable? with
  | none => rfl
  | some v =>
    rw [function?_of_declaredVariable? hdeclared] at h
    cases h

def definedFunction? (t : Tree) : Option Tree := (some (undecorated t)).filter (·.kind == .function)

section

variable {abstract : Bool} {t : Tree} {n : Strict.Node}

theorem SameMember.declaredVariable?_rel (h : SameMember abstract t n) :
    Option.Rel (fun v v' => v.1.text = v'.1 ∧ SameCanonical v.2 v'.2) (declaredVariable? t) n.declaredVariable? := by
  cases h with
  | method kind function same signature =>
    rw [declaredVariable?_of_undecorated kind, Strict.declaredVariable?_of_function? function]
    exact .none
  | field declared declared' same =>
    rw [declared, declared']
    exact .some ⟨rfl, same⟩
  | other kind function declared declared' =>
    rw [declared, declared']
    exact .none

theorem SameMember.definedFunction?_rel (h : SameMember abstract t n) :
    Option.Rel (fun d f => SameFunction d f ∧ (abstract = true → signatureText d = Strict.signatureText f)) (definedFunction? t)
      n.function? := by
  cases h with
  | method kind function same signature =>
    rw [function, definedFunction?, Option.filter_some, if_pos (by simp [kind])]
    exact .some ⟨same, signature⟩
  | field declared declared' same =>
    have hkind := kind_of_declaredVariable? declared
    rw [Strict.function?_of_declaredVariable? declared', definedFunction?, undecorated_of_expression hkind, Option.filter_some,
      if_neg (by simp [hkind])]
    exact .none
  | other kind function declared declared' =>
    rw [function, definedFunction?, Option.filter_some, if_neg (by simpa using kind)]
    exact .none

end

section

variable {t : Tree} {c : Strict.Node.Class} (h : SameClass t c)
include h

theorem baseNames_eq : baseNames t = c.bases.map Strict.baseName :=
  map_eq_of_forall₂ (fun _ _ hb => baseName_eq hb) h.bases

theorem hasAbstractMetaclass_eq : hasAbstractMetaclass t = Strict.hasAbstractMetaclass c := by
  rw [hasAbstractMetaclass, Strict.hasAbstractMetaclass]
  refine any_eq_of_forall₂ (fun a k hak => ?_) h.keywords
  obtain ⟨name, value, id, value', hchildren, rfl, hname, hvalue⟩ := exists_of_sameKeyword hak
  rw [hchildren]
  simp only [hname, baseName_eq hvalue]
  split
  · next heq => cases heq; rfl
  · next hother =>
    have hid : id ≠ "metaclass" := by
      rintro rfl
      exact hother _ rfl
    rw [beq_eq_false_iff_ne.2 hid, Bool.false_and]

theorem isAbstract_eq :
    (hasAbstractMetaclass t || (baseNames t).any interfaceBases.contains) = Strict.isAbstract c := by
  rw [hasAbstractMetaclass_eq h, baseNames_eq h, Bool.or_comm, Strict.isAbstract]

theorem declaredVariables_rel :
    List.Forall₂ (fun v v' => v.1.text = v'.1 ∧ SameCanonical v.2 v'.2) ((bodyTrees t).filterMap declaredVariable?)
      (c.body.filterMap Strict.Node.declaredVariable?) :=
  List.rel_filterMap (fun _ _ hs => hs.declaredVariable?_rel) h.body

theorem methods_rel :
    List.Forall₂ (fun d f => SameFunction d f) ((bodyTrees t).filterMap definedFunction?) (c.body.filterMap Strict.Node.function?) := by
  have hmethods := List.rel_filterMap (fun _ _ hs => hs.definedFunction?_rel) h.body
  exact hmethods.imp fun _ _ hm => hm.1

theorem classOf_agrees (file : String) : (classOf file t).Agrees (Strict.classOf file c) where
  kind := by
    simp only [classOf, Strict.classOf]
    rw [isAbstract_eq h, Strict.isAbstract]
  name := h.name
  file := rfl
  line := congrArg Int.ofNat h.line
  members := by
    simp only [classOf, Strict.classOf]
    rw [isAbstract_eq h, ← Strict.isAbstract]
    refine filterMap_eq_of_forall₂ (fun s n hs => ?_) h.body
    cases hs with
    | @method f kind function same signature =>
      rw [declaredVariable?_of_undecorated kind, Strict.declaredVariable?_of_function? function, function]
      simp only [kind, beq_self_eq_true, Bool.and_true, Option.map_some]
      split
      · next habstract => rw [same.name, signature habstract]
      · rfl
    | field declared declared' same =>
      rw [declared, declared']
      simp only [same.text]
    | other kind function declared declared' =>
      rw [declared, declared', function]
      simp only [beq_eq_false_iff_ne.2 kind, Bool.and_false, Option.map_none, ite_self]
      rfl
  owner := rfl
  calls := .refl _
  tables := .refl _
  references := by
    have htypes := perm_flatMap_of_forall₂ (fun _ _ hv => typeNames_perm hv.2.type) (declaredVariables_rel h)
    refine perm_distinctNames_of_mem_iff fun r hr => ?_
    -- one reader drops empty base names here, the other leaves that to `distinctNames`
    have hbases : r ∈ (baseNames t).filter (!interfaceBases.contains ·) ↔
        r ∈ (c.bases.map Strict.baseName).filter fun b => !b.isEmpty && !interfaceBases.contains b := by
      have hempty : r.isEmpty = false := by simpa using hr
      rw [baseNames_eq h, List.mem_filter, List.mem_filter, hempty, Bool.not_false, Bool.true_and]
    rw [List.mem_filter, List.mem_filter, List.mem_append, List.mem_append, hbases, h.name]
    exact and_congr_left' (or_congr_right htypes.mem_iff)

end

/-! ### Modules -/

inductive SameDefinition (t : Tree) (n : Strict.Node) : Prop where
  | function {f : Strict.Node.Function} (kind : (undecorated t).kind = .function) (function : n.function? = some f)
      (same : SameFunction (undecorated t) f)
  | classDefinition {c : Strict.Node.Class} (kind : (undecorated t).kind = .classDefinition) (type : n.class? = some c)
      (same : SameClass (undecorated t) c)
  | other (kind : (undecorated t).kind ≠ .function) (kind' : (undecorated t).kind ≠ .classDefinition)
      (function : n.function? = none) (type : n.class? = none)

/-- The trees of one module: one that ends in the text, and one that the compiler sees. -/
def SameModule (t : Tree) (ns : List Strict.Node) : Prop := List.Forall₂ SameDefinition t.children ns

theorem Strict.class?_of_function? {n : Node} {f : Node.Function} (h : n.function? = some f) : n.class? = none := by
  rw [Node.function?.eq_def] at h
  split at h
  · rfl
  · cases h

theorem filter_map_undecorated (ts : List Tree) :
    (ts.map undecorated).filter (·.kind == .function) = ts.filterMap definedFunction? := by
  induction ts with
  | nil => rfl
  | cons t ts ih =>
    rw [List.map_cons, List.filter_cons, List.filterMap_cons, ih, definedFunction?, Option.filter_some]
    split <;> rfl

theorem declarationsOf_agrees (file : String) {t : Tree} {n : Strict.Node} (h : SameDefinition t n) :
    List.Forall₂ Declaration.Agrees (declarationsOf file t) (Strict.declarationsOf file n) := by
  rw [declarationsOf, Strict.declarationsOf]
  cases h with
  | function kind function same =>
    rw [Strict.class?_of_function? function, function]
    simp only [kind]
    exact .cons (functionOf_agrees file none same) .nil
  | @classDefinition c kind type same =>
    rw [type, if_pos (by simp [kind])]
    have hmethods : List.Forall₂ Declaration.Agrees
        (((bodyTrees (undecorated t)).filterMap definedFunction?).map (functionOf file (some c.name)))
        ((c.body.filterMap Strict.Node.function?).map (Strict.functionOf file (some c.name))) :=
      List.rel_map (fun _ _ hm => functionOf_agrees file (some c.name) hm) (methods_rel same)
    rw [← filter_map_undecorated] at hmethods
    have hname : (classOf file (undecorated t)).name = c.name := same.name
    simp only [hname]
    exact .cons (classOf_agrees same file) hmethods
  | other kind kind' function type =>
    rw [type, function]
    simp [kind, kind']

theorem agrees_of_sameModule (file : String) {t : Tree} {ns : List Strict.Node} (h : SameModule t ns) :
    (declarations file t).Agrees (Strict.declarations file ns) := by
  have hall : List.Forall₂ Declaration.Agrees (t.children.flatMap (declarationsOf file)) (ns.flatMap (Strict.declarationsOf file)) :=
    List.rel_flatMap h fun _ _ => declarationsOf_agrees file
  have hkind (k : Declaration.Kind) : List.Forall₂ Declaration.Agrees
      ((t.children.flatMap (declarationsOf file)).filter (·.kind == k))
      ((ns.flatMap (Strict.declarationsOf file)).filter (·.kind == k)) :=
    List.rel_filter (fun _ _ hd => by simp [hd.kind]) hall
  exact ⟨hkind .struct, hkind .interface, hkind .function,
    perm_flatMap_of_forall₂ (fun _ _ hd => hd.accesses) (hkind .function)⟩

/-- The extractor of syntax trees lists what a function calls in the order of the text, the other one level by level;
so their lists are permutations of each other, and equal if no call stands deeper than a later one. In all else, up to
the order of tables, references and accesses, they find the same in the two trees of a module. -/
theorem declarations_agree (file : String) :
    (∀ owner t f,
      (functionOf file owner t).calls = distinctNames (calledNames t) ∧
        (Strict.functionOf file owner f).calls =
          distinctNames ((Strict.bodyLevels f).filterMap Strict.calledName?) ∧
        ((calledNames t).Perm (Strict.calledNames f) →
          (functionOf file owner t).calls.Perm (Strict.functionOf file owner f).calls) ∧
        ((namedTables t).Perm (Strict.namedTables f) →
          (functionOf file owner t).tables.Perm (Strict.functionOf file owner f).tables) ∧
        (calledNames t = Strict.calledNames f →
          (Strict.InDepthOrder f → (functionOf file owner t).calls = (Strict.functionOf file owner f).calls) ∧
            ((calledNames t).Nodup →
              ((functionOf file owner t).calls = (Strict.functionOf file owner f).calls ↔ Strict.InDepthOrder f)))) ∧
      ∀ t ns, SameModule t ns → (declarations file t).Agrees (Strict.declarations file ns) := by
  refine ⟨fun owner t f => ⟨functionOf_calls file owner t, Strict.functionOf_calls file owner f,
    calls_perm file owner, tables_perm file owner, fun hnames => ⟨fun hdepth => ?_, fun hnodup => ?_⟩⟩,
    fun t ns => agrees_of_sameModule file⟩
  · rw [functionOf_calls, hnames, Strict.calls_of_inDepthOrder file owner hdepth]
  · rw [functionOf_calls, hnames, eq_comm]
    rw [hnames] at hnodup
    exact Strict.calls_eq_iff_inDepthOrder file owner hnodup

def nestedCalls : String := "def f():\n    a(b())\n    c()\n"

def nestedCallsModule : Tree := (parse? nestedCalls).getD default

def nestedCallsTree : Tree := nestedCallsModule.children.head?.getD default

def Strict.nestedCallsModule : List Strict.Node := (parse? nestedCalls).getD []

def Strict.nestedCallsFunction : Strict.Node.Function :=
  (nestedCallsModule.head?.bind Node.function?).getD ⟨"", 0, default, [], none⟩

theorem sameFunction_nestedCalls : SameFunction nestedCallsTree Strict.nestedCallsFunction := by
  refine ⟨by decide +kernel, by decide +kernel, ?_, ?_, Strict.uses Strict.nestedCallsFunction, ?_, .refl _⟩
  · have htree : namedParameters nestedCallsTree = [] := List.isEmpty_iff.1 (by decide +kernel)
    have hnode : Strict.namedParameters Strict.nestedCallsFunction = [] := List.isEmpty_iff.1 (by decide +kernel)
    rw [htree, hnode]
    exact .nil
  · have htree : nestedCallsTree.child? .result = none := Option.isNone_iff_eq_none.1 (by decide +kernel)
    have hnode : Strict.nestedCallsFunction.result = none := Option.isNone_iff_eq_none.1 (by decide +kernel)
    rw [htree, hnode]
    exact .none
  · decide +kernel

theorem sameModule_nestedCalls : SameModule nestedCallsModule Strict.nestedCallsModule := by
  obtain ⟨t, ht⟩ : ∃ t, nestedCallsModule.children = [t] := List.length_eq_one_iff.1 (by decide +kernel)
  obtain ⟨n, hn⟩ : ∃ n, Strict.nestedCallsModule = [n] := List.length_eq_one_iff.1 (by decide +kernel)
  have hkind : nestedCallsTree.kind = .function := by decide +kernel
  have hplain : undecorated nestedCallsTree = nestedCallsTree := by rw [undecorated, hkind]; rfl
  have hsome : (Strict.nestedCallsModule.head?.bind Strict.Node.function?).isSome := by decide +kernel
  obtain ⟨f, hf⟩ := Option.isSome_iff_exists.1 hsome
  have hfirst : nestedCallsTree = t := by rw [nestedCallsTree, ht]; rfl
  have hfunction : Strict.nestedCallsFunction = f := by rw [Strict.nestedCallsFunction, hf]; rfl
  rw [hn, List.head?_cons, Option.bind_some] at hf
  rw [SameModule, ht, hn, ← hfirst]
  refine .cons (.function (by rw [hplain, hkind]) (hf.trans (congrArg some hfunction.symm)) ?_) .nil
  rw [hplain]
  exact sameFunction_nestedCalls

theorem declarations_agree_nestedCalls :
    SameModule nestedCallsModule Strict.nestedCallsModule ∧
      (declarations "pkg/file" nestedCallsModule).Agrees (Strict.declarations "pkg/file" Strict.nestedCallsModule) ∧
      calledNames nestedCallsTree = Strict.calledNames Strict.nestedCallsFunction ∧
      (calledNames nestedCallsTree).Nodup ∧ ¬Strict.InDepthOrder Strict.nestedCallsFunction ∧
      (functionOf "pkg/file" none nestedCallsTree).calls = ["a", "b", "c"] ∧
      (Strict.functionOf "pkg/file" none Strict.nestedCallsFunction).calls = ["a", "c", "b"] := by
  obtain ⟨hfunctions, hmodules⟩ := declarations_agree "pkg/file"
  obtain ⟨htext, hlevels, -, -, hequal⟩ := hfunctions none nestedCallsTree Strict.nestedCallsFunction
  have hnames : calledNames nestedCallsTree = Strict.calledNames Strict.nestedCallsFunction := by decide +kernel
  have hnodup : (calledNames nestedCallsTree).Nodup := by decide +kernel
  have hcalls : (functionOf "pkg/file" none nestedCallsTree).calls = ["a", "b", "c"] := by
    rw [htext]
    decide +kernel
  have hcalls' : (Strict.functionOf "pkg/file" none Strict.nestedCallsFunction).calls = ["a", "c", "b"] := by
    rw [hlevels]
    decide +kernel
  have hdepth : ¬Strict.InDepthOrder Strict.nestedCallsFunction := by
    rw [← (hequal hnames).2 hnodup, hcalls, hcalls']
    decide
  exact ⟨sameModule_nestedCalls, hmodules _ _ sameModule_nestedCalls, hnames, hnodup, hdepth, hcalls, hcalls'⟩

theorem extract_nestedCalls_ne :
    ∃ x y, extract nestedCalls "pkg/file" = .ok x ∧ Strict.extract nestedCalls "pkg/file" = .ok y ∧
      x.functions.map (·.calls) = [["a", "b", "c"]] ∧ y.functions.map (·.calls) = [["a", "c", "b"]] := by
  have htree : (parse? nestedCalls).map (fun t => (declarations "pkg/file" t).functions.map (·.calls)) =
      some [["a", "b", "c"]] := by decide +kernel
  have hnodes : (Strict.parse? nestedCalls).map
      (fun ts => (Strict.declarations "pkg/file" ts).functions.map (·.calls)) = some [["a", "c", "b"]] := by
    decide +kernel
  have hnull : nestedCalls.contains '\x00' = false := by simp [nestedCalls]
  obtain ⟨t, ht, hcalls⟩ := Option.map_eq_some_iff.1 htree
  obtain ⟨ts, hts, hlevels⟩ := Option.map_eq_some_iff.1 hnodes
  refine ⟨declarations "pkg/file" t, Strict.declarations "pkg/file" ts, ?_, ?_, hcalls, hlevels⟩
  · rw [extract, ht]
  · rw [Strict.extract, hnull, hts]
    rfl

end Python

end Demarcation
