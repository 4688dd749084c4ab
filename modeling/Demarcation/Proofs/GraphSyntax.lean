import Mathlib.Tactic.Common
import Demarcation.Proofs.QuotedStrings

namespace Demarcation

namespace Graph

inductive Name where
  | plain (text : String)
  | quoted (text : String)
deriving DecidableEq, Repr

inductive Token where
  | name (n : Name)
  | arrow
  | mark (c : Char)
deriving DecidableEq, Repr

section Tokens

def isBlank (c : Char) : Bool := c == ' ' || c == '\n'

def isMark (c : Char) : Bool := c == '\x7b' || c == '\x7d' || c == '[' || c == ']' || c == '=' || c == ';' || c == ','

def isNameChar (c : Char) : Bool := c.isAlphanum || c == '_'

def tokens? : List Char → Option (List Token)
  | [] => some []
  | c :: cs =>
    if isBlank c then tokens? cs
    else if isMark c then (tokens? cs).map (.mark c :: ·)
    else if isNameChar c then
      (tokens? (cs.dropWhile isNameChar)).map (.name (.plain (String.ofList (c :: cs.takeWhile isNameChar))) :: ·)
    else if c = '"' then
      match _hread : readQuoted? cs with
      | some (value, rest) => (tokens? rest).map (.name (.quoted (String.ofList value)) :: ·)
      | none => none
    else if c = '-' ∧ cs.head? = some '>' then (tokens? cs.tail).map (.arrow :: ·)
    else none
termination_by cs => cs.length
decreasing_by
  · simp
  · simp
  · exact Nat.lt_succ_of_le (List.length_dropWhile_le _ _)
  · exact Nat.lt_succ_of_lt (length_lt_of_readQuoted? ‹_›)
  · exact Nat.lt_succ_of_le (List.length_tail ▸ Nat.sub_le _ _)

def Reads (p : Prop) (s : String) (ts : List Token) : Prop :=
  ∀ rest more, tokens? (s.toList ++ rest) = some (ts ++ more) ↔ p ∧ tokens? rest = some more

variable {p q : Prop} {s t : String} {c : Char} {ts us : List Token}

theorem Reads.congr (h : Reads p s ts) (hpq : p ↔ q) : Reads q s ts := by rwa [← hpq]

theorem Reads.of_eq (h : Reads p s ts) (hts : ts = us) : Reads p s us := hts ▸ h

theorem Reads.append (h : Reads p s ts) (h' : Reads q t us) : Reads (p ∧ q) (s ++ t) (ts ++ us) := by
  intro rest more
  rw [String.toList_append, List.append_assoc, List.append_assoc, h, h', and_assoc]

theorem Reads.tokens?_eq_some_iff (h : Reads p s ts) : tokens? s.toList = some ts ↔ p := by
  have hend : tokens? [] = some [] := by rw [tokens?]
  have hs := h [] []
  rwa [List.append_nil, List.append_nil, and_iff_left hend] at hs

theorem map_cons_eq_some_iff {t : Token} {read : Option (List Token)} :
    read.map (t :: ·) = some (t :: ts) ↔ read = some ts := by
  simp [Option.map_eq_some_iff]

theorem isBlank_eq_false (h : isNameChar c = true) : isBlank c = false := by
  rw [← Bool.not_eq_true]
  intro hblank
  simp only [isBlank, Bool.or_eq_true, beq_iff_eq] at hblank
  obtain rfl | rfl := hblank <;> exact absurd h (by decide)

theorem isMark_eq_false (h : isNameChar c = true) : isMark c = false := by
  rw [← Bool.not_eq_true]
  intro hmark
  simp only [isMark, Bool.or_eq_true, beq_iff_eq] at hmark
  obtain (((((rfl | rfl) | rfl) | rfl) | rfl) | rfl) | rfl := hmark <;> exact absurd h (by decide)

theorem Reads.name {d : Char} {ds : List Char} (h : Reads p t ts) (ht : t.toList = d :: ds) (hd : isNameChar d = false)
    (hs : ∀ c ∈ s.toList, isNameChar c = true) (hne : s.toList ≠ []) : Reads p (s ++ t) (.name (.plain s) :: ts) := by
  obtain ⟨c, cs, hs'⟩ := List.exists_cons_of_ne_nil hne
  have hname : s = String.ofList (c :: cs) := by rw [← hs', String.ofList_toList]
  rw [hs'] at hs
  obtain ⟨hc, hcs⟩ := List.forall_mem_cons.1 hs
  intro rest more
  have h := h rest more
  rw [ht] at h
  rw [String.toList_append, hs', ht, List.append_assoc, List.cons_append, tokens?, isBlank_eq_false hc,
    if_neg Bool.false_ne_true, isMark_eq_false hc, if_neg Bool.false_ne_true, if_pos hc,
    List.dropWhile_append_of_pos hcs, List.takeWhile_append_of_pos hcs, List.cons_append,
    List.dropWhile_cons_of_neg (by simp [hd]), List.takeWhile_cons_of_neg (by simp [hd]), List.append_nil, hname,
    List.cons_append, map_cons_eq_some_iff, ← List.cons_append, h]

theorem reads_quote (s : String) : Reads (Paired s) (quote s) [.name (.quoted s)] := by
  intro rest more
  have hread := readsExactlyIf_quote s rest
  rw [toList_quote, List.cons_append, List.append_assoc, List.singleton_append, tokens?, if_neg (by decide),
    if_neg (by decide), if_neg (by decide), if_pos rfl]
  split
  · rename_i v r heq
    rw [Option.map_eq_some_iff]
    by_cases hs : Paired s
    · obtain ⟨rfl, rfl⟩ := Prod.mk.inj (Option.some.inj (heq.symm.trans (hread.eq_some hs)))
      simp [hs, String.ofList_toList]
    · have hne : String.ofList v ≠ s := by
        rintro rfl
        exact (hread.ne hs v r heq).1 String.toList_ofList.symm
      simp [hs, hne]
  · rename_i heq
    have hs : ¬Paired s := by
      intro hs
      rw [hread.eq_some hs] at heq
      cases heq
    simp [hs]

end Tokens

section Trees

inductive Item where
  | set (key value : Name)
  | node (name : Name) (attributes : List (Name × Name))
  | edge (source target : Name) (attributes : List (Name × Name))
deriving DecidableEq, Repr

inductive Statement where
  | item (i : Item)
  | subgraph (name : Name) (items : List Item)
deriving DecidableEq, Repr

structure Tree where
  name : Name
  statements : List Statement
deriving DecidableEq, Repr

def attributeTokens : List (Name × Name) → List Token
  | [] => []
  | [(key, value)] => [.name key, .mark '=', .name value]
  | (key, value) :: rest => .name key :: .mark '=' :: .name value :: .mark ',' :: attributeTokens rest

def Item.tokens : Item → List Token
  | set key value => [.name key, .mark '=', .name value, .mark ';']
  | node name attributes => .name name :: .mark '[' :: attributeTokens attributes ++ [.mark ']', .mark ';']
  | edge source target attributes =>
    .name source :: .arrow :: .name target :: .mark '[' :: attributeTokens attributes ++ [.mark ']', .mark ';']

def Statement.tokens : Statement → List Token
  | item i => i.tokens
  | subgraph name items =>
    .name (.plain "subgraph") :: .name name :: .mark '\x7b' :: items.flatMap Item.tokens ++ [.mark '\x7d']

def Tree.tokens (t : Tree) : List Token :=
  .name (.plain "digraph") :: .name t.name :: .mark '\x7b' :: t.statements.flatMap Statement.tokens ++ [.mark '\x7d']

def IsWellFormed (text : String) : Prop := ∃ t : Tree, tokens? text.toList = some t.tokens

end Trees

section Plain

variable {s t : String}

theorem isPlain_append (hs : IsPlain s.toList) (ht : IsPlain t.toList) : IsPlain (s ++ t).toList := by
  intro c hc
  rw [String.toList_append, List.mem_append] at hc
  exact hc.elim (hs c) (ht c)

theorem isPlain_of_isDigit {cs : List Char} (h : ∀ c ∈ cs, c.isDigit = true) : IsPlain cs := by
  intro c hc
  have hdigit := h c hc
  constructor <;> (rintro rfl; exact absurd hdigit (by decide))

theorem isDigit_of_mem_toString {n : Nat} : ∀ c ∈ (toString n).toList, c.isDigit = true := by
  have hdigits : (toString n).toList = Nat.toDigits 10 n := Nat.toList_repr
  rw [hdigits]
  intro c hc
  exact Nat.isDigit_of_mem_toDigits (by decide) (by decide) hc

theorem isPlain_anchor (i : Nat) : IsPlain (anchor i).toList :=
  isPlain_append (s := "b") (by decide) (isPlain_of_isDigit isDigit_of_mem_toString)

theorem paired_of_isPlain (h : IsPlain s.toList) : Paired s := by
  by_cases hnil : s.toList = []
  · rw [Paired, hnil]
    exact pairedFrom_nil.2 Even.zero
  · have hpaired := (pairedFrom_append_of_isPlain [] [] h hnil).2 (pairedFrom_nil.2 Even.zero)
    rwa [List.append_nil] at hpaired

theorem paired_append_iff (hs : IsPlain s.toList) (hne : s.toList ≠ []) : Paired (s ++ t) ↔ Paired t := by
  rw [Paired, Paired, String.toList_append]
  exact pairedFrom_append_of_isPlain [] t.toList hs hne

theorem Paired.append (hs : Paired s) (ht : IsPlain t.toList) (hne : t.toList ≠ []) : Paired (s ++ t) := by
  rw [Paired, String.toList_append]
  exact pairedFrom_append hs ht hne

theorem quote_of_isPlain (h : IsPlain s.toList) : quote s = "\"" ++ s ++ "\"" := by
  have hescaped (cs : List Char) (hcs : IsPlain cs) : escaped cs = cs := by
    induction cs with
    | nil => rfl
    | cons c cs ih =>
      rw [escaped_cons_of_ne (hcs c List.mem_cons_self).1, ih fun d hd => hcs d (List.mem_cons_of_mem c hd)]
  apply String.toList_inj.1
  rw [toList_quote, hescaped _ h, String.toList_append, String.toList_append]
  rfl

end Plain

end Graph

end Demarcation
