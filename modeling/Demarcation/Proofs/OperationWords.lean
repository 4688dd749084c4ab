import Mathlib.Data.List.Infix
import Demarcation.TableAccess

/-!
The operation of a function, told by words in its name and in the names of the functions that it calls. The called names
are searched in one text, with blanks between them. A word without blanks is found there if and only if one of the names
says it (`says_intercalate_iff`): a blank is part of no word, and it also ends what the lower case of a letter depends
on. So the operation is told name by name (`inferOperation_by_names`), but that a called name says `insert` does not
count (`inferOperation_insertRow`).
-/

namespace Demarcation

namespace Text

theorem any_isCased_append_blank (xs ys : List Char) :
    ((xs ++ ' ' :: ys).dropWhile isCaseIgnorable).head?.any isCased =
      (xs.dropWhile isCaseIgnorable).head?.any isCased := by
  induction xs with
  | nil => rfl
  | cons c cs ih =>
    rw [List.cons_append, List.dropWhile_cons, List.dropWhile_cons]
    split
    · exact ih
    · rfl

theorem lowerFrom_before_blank (before earlier cs : List Char) :
    lowerFrom (before ++ ' ' :: earlier) cs = lowerFrom before cs := by
  induction cs generalizing before with
  | nil => rfl
  | cons c cs ih =>
    have htail : lowerFrom (c :: (before ++ ' ' :: earlier)) cs = lowerFrom (c :: before) cs := ih (c :: before)
    rw [lowerFrom, lowerFrom, htail, any_isCased_append_blank]

theorem lowerFrom_append_blank (before xs ys : List Char) :
    lowerFrom before (xs ++ ' ' :: ys) = lowerFrom before xs ++ ' ' :: lowerFrom [] ys := by
  induction xs generalizing before with
  | nil =>
    have hlow : lowerFrom before (' ' :: ys) = ' ' :: lowerFrom (' ' :: before) ys := rfl
    have hrest : lowerFrom (' ' :: before) ys = lowerFrom [] ys := lowerFrom_before_blank [] before ys
    rw [List.nil_append, hlow, hrest]
    rfl
  | cons c cs ih =>
    rw [List.cons_append, lowerFrom, lowerFrom, ih, any_isCased_append_blank, List.append_assoc]

theorem lowerFrom_intercalate_blank (parts : List (List Char)) :
    lowerFrom [] ([' '].intercalate parts) = [' '].intercalate (parts.map (lowerFrom [])) := by
  induction parts with
  | nil => rfl
  | cons p ps ih =>
    cases ps with
    | nil => rw [List.intercalate_singleton, List.map_singleton, List.intercalate_singleton]
    | cons q qs =>
      rw [List.map_cons, List.map_cons, List.intercalate_cons_cons, List.intercalate_cons_cons, ← List.map_cons, ← ih,
        List.append_assoc, List.append_assoc, List.singleton_append, List.singleton_append, lowerFrom_append_blank]

end Text

open Text

section Infixes

variable {α : Type} {word : List α} {separator : α}

theorem infix_append_separator_iff (hword : separator ∉ word) {xs ys : List α} :
    word <:+: xs ++ separator :: ys ↔ word <:+: xs ∨ word <:+: ys := by
  -- what begins with the separator is no part of the word
  have hnil {l : List α} (hsub : l ⊆ word) (hbegins : l <+: separator :: ys) : l = [] := by
    rcases List.prefix_cons_iff.1 hbegins with rfl | ⟨t, rfl, -⟩
    · rfl
    · exact absurd (hsub List.mem_cons_self) hword
  rw [List.infix_append_iff, List.infix_cons_iff]
  constructor
  · rintro (hxs | (hbegins | hys) | ⟨l, r, rfl, hl, hr⟩)
    · exact .inl hxs
    · exact .inr (hnil (List.Subset.refl _) hbegins ▸ List.nil_infix)
    · exact .inr hys
    · obtain rfl := hnil (List.subset_append_right l r) hr
      exact .inl (by rw [List.append_nil]; exact hl.isInfix)
  · rintro (hxs | hys)
    · exact .inl hxs
    · exact .inr (.inl (.inr hys))

theorem infix_intercalate_iff (hword : separator ∉ word) (hne : word ≠ []) {parts : List (List α)} :
    word <:+: [separator].intercalate parts ↔ ∃ p ∈ parts, word <:+: p := by
  induction parts with
  | nil => simpa using hne
  | cons p ps ih =>
    cases ps with
    | nil => simp
    | cons q qs =>
      rw [List.intercalate_cons_cons, List.append_assoc, List.singleton_append, infix_append_separator_iff hword, ih,
        List.exists_mem_cons_iff word.IsInfix p]

end Infixes

theorem occurs_iff {word cs : List Char} : occurs word cs = true ↔ word <:+: cs := by
  induction cs with
  | nil => rw [occurs, List.isEmpty_iff, List.infix_nil]
  | cons c cs ih => rw [occurs, Bool.or_eq_true, ih, List.isPrefixOf_iff_prefix, List.infix_cons_iff]

def Says (word text : String) : Prop := word.toList <:+: (lower text).toList

instance (word text : String) : Decidable (Says word text) := inferInstanceAs (Decidable (_ <:+: _))

def SaidBy (names : List String) (word : String) : Prop := ∃ name ∈ names, Says word name

instance (names : List String) (word : String) : Decidable (SaidBy names word) :=
  inferInstanceAs (Decidable (∃ name ∈ names, Says word name))

theorem occurs_lowerFrom_iff {word text : String} :
    occurs word.toList (lowerFrom [] text.toList) = true ↔ Says word text := by
  rw [occurs_iff, Says, lower, String.toList_ofList]

theorem says_intercalate_iff {word : String} (hblank : ' ' ∉ word.toList) (hne : word ≠ "") {texts : List String} :
    Says word (" ".intercalate texts) ↔ SaidBy texts word := by
  have hlower : (lower (" ".intercalate texts)).toList = [' '].intercalate (texts.map fun t => (lower t).toList) := by
    have hjoined : (" ".intercalate texts).toList = [' '].intercalate (texts.map String.toList) :=
      String.toList_intercalate
    rw [lower, String.toList_ofList, hjoined, lowerFrom_intercalate_blank, List.map_map]
    simp only [lower, String.toList_ofList, Function.comp_def]
  have hnonempty : word.toList ≠ [] := by simpa using hne
  rw [Says, hlower, infix_intercalate_iff hblank hnonempty]
  simp only [List.mem_map, exists_exists_and_eq_and, SaidBy, Says]

theorem occurs_or_occurs (word : String) (hblank : ' ' ∉ word.toList) (hne : word ≠ "") (function : String)
    (calls : List String) :
    (occurs word.toList (lowerFrom [] function.toList) ||
        occurs word.toList (lowerFrom [] (" ".intercalate calls).toList)) =
      decide (SaidBy (function :: calls) word) := by
  rw [Bool.eq_iff_iff, Bool.or_eq_true, occurs_lowerFrom_iff, occurs_lowerFrom_iff, says_intercalate_iff hblank hne,
    decide_eq_true_iff, SaidBy, SaidBy, List.exists_mem_cons_iff]

theorem inferOperation_eq (function : String) (calls : List String) :
    inferOperation function calls =
      if Says "insert" function ∨ SaidBy (function :: calls) "create" then .insert
      else if SaidBy (function :: calls) "update" then .update
      else if SaidBy (function :: calls) "delete" then .delete
      else .select := by
  have hinsert : occurs "insert".toList (lowerFrom [] function.toList) = decide (Says "insert" function) := by
    rw [Bool.eq_iff_iff, occurs_lowerFrom_iff, decide_eq_true_iff]
  have hcreate := occurs_or_occurs "create" (by decide) (by decide) function calls
  have hupdate := occurs_or_occurs "update" (by decide) (by decide) function calls
  have hdelete := occurs_or_occurs "delete" (by decide) (by decide) function calls
  simp only [inferOperation]
  rw [Bool.or_right_comm, hcreate, hinsert, hupdate, hdelete]
  simp only [Bool.or_eq_true, decide_eq_true_eq, or_comm]

/-- The operation is told by the name of the function and by the called names one by one, and the first of the four that
fits counts. In the called names joined with blanks a word is found if and only if one of them says it. -/
theorem inferOperation_by_names (function : String) (calls : List String) :
    (inferOperation function calls = .insert ↔ Says "insert" function ∨ SaidBy (function :: calls) "create") ∧
      (inferOperation function calls = .update ↔
        inferOperation function calls ≠ .insert ∧ SaidBy (function :: calls) "update") ∧
      (inferOperation function calls = .delete ↔
        inferOperation function calls ≠ .insert ∧ inferOperation function calls ≠ .update ∧
          SaidBy (function :: calls) "delete") ∧
      (inferOperation function calls = .select ↔
        ¬Says "insert" function ∧ ∀ word ∈ ["create", "update", "delete"], ¬SaidBy (function :: calls) word) ∧
      ∀ word : String, ' ' ∉ word.toList → word ≠ "" →
        (Says word (" ".intercalate calls) ↔ SaidBy calls word) := by
  have heq := inferOperation_eq function calls
  have hjoined (word : String) (hblank : ' ' ∉ word.toList) (hne : word ≠ "") :
      Says word (" ".intercalate calls) ↔ SaidBy calls word := says_intercalate_iff hblank hne
  split_ifs at heq with hinsert hupdate hdelete
  · rcases hinsert with hinsert | hinsert
    · simp_all
    · simp_all
  · simp_all
  · simp_all
  · simp_all

def savedCalls : List String := ["tx.insertRow", "audit.CreateEntry"]

theorem inferOperation_by_names_savedCalls :
    ' ' ∉ "create".toList ∧ "create" ≠ "" ∧ Says "create" (" ".intercalate savedCalls) ∧
      inferOperation "save" savedCalls = .insert := by
  obtain ⟨hinsert, -, -, -, hjoined⟩ := inferOperation_by_names "save" savedCalls
  have hblank : ' ' ∉ "create".toList := by decide
  have hne : "create" ≠ "" := by decide
  have hsaid : SaidBy savedCalls "create" := by decide +kernel
  have hall : SaidBy ("save" :: savedCalls) "create" := by decide +kernel
  exact ⟨hblank, hne, (hjoined "create" hblank hne).2 hsaid, hinsert.2 (.inr hall)⟩

theorem inferOperation_insertRow :
    SaidBy ["tx.insertRow"] "insert" ∧ inferOperation "save" ["tx.insertRow"] = .select := by
  constructor
  · decide +kernel
  · decide +kernel

end Demarcation
