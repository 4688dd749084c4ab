import Mathlib
import Demarcation.Proofs.StatementTables

/-!
The words of a name in camel case and of the same name in lower case with underscores between its words. The underscores
stand where the words of the name begin, and without capitals no word begins inside another one. So both names have the
same words (`words_map_toLower_markWords`), and the second one is left as it is when its words are marked again
(`markWords_of_no_capital`).
-/

namespace Demarcation

namespace Text

def IsAscii (name : String) : Prop := ∀ c ∈ name.toList, c.toNat < 128

section Words

variable {word cs : List Char} {before : Option Char} {c : Char}

theorem lowerFrom_of_ascii {earlier : List Char} (h : ∀ c ∈ cs, c.toNat < 128) :
    lowerFrom earlier cs = cs.map Char.toLower := by
  induction cs generalizing earlier with
  | nil => rfl
  | cons c cs ih =>
    obtain ⟨hc, hcs⟩ := List.forall_mem_cons.1 h
    have hsigma : c.toNat ≠ 931 := by omega
    have hdotted : c.toNat ≠ 304 := by omega
    rw [lowerFrom, ih hcs, if_neg hsigma, if_neg hdotted, lowerChar, if_pos hc]
    rfl

theorem isAlphanum_toLower (c : Char) : c.toLower.isAlphanum = c.isAlphanum := by
  simp only [Char.isAlphanum, Char.isAlpha_toLower_eq_isAlpha]
  by_cases hupper : c.isUpper = true
  · simp [Char.isAlpha, hupper]
  · rw [Char.toLower_eq_of_not_isUpper hupper]

theorem startsWord_of_not_isUpper {after : Option Char} (h : c.isUpper = false) :
    startsWord before c after = false := by
  rw [startsWord, h, Bool.false_and]

theorem isAlphanum_of_startsWord {after : Option Char} (h : startsWord before c after = true) :
    c.isAlphanum = true := by
  have hupper : c.isUpper = true := (Bool.and_eq_true_iff.1 h).1
  simp [Char.isAlphanum, Char.isAlpha, hupper]

theorem words_of_startsWord (h : startsWord before c cs.head? = true) :
    words word before (c :: cs) = word.reverse :: words [c] (some c) cs := by
  rw [words, if_pos (isAlphanum_of_startsWord h), if_pos h]

theorem words_of_isAlphanum (hc : c.isAlphanum = true) (h : startsWord before c cs.head? = false) :
    words word before (c :: cs) = words (c :: word) (some c) cs := by
  rw [words, if_pos hc, if_neg (Bool.eq_false_iff.1 h)]

theorem words_of_not_isAlphanum (hc : c.isAlphanum = false) :
    words word before (c :: cs) = word.reverse :: words [] (some c) cs := by
  rw [words, if_neg (Bool.eq_false_iff.1 hc)]

theorem words_toLower (hc : c.isAlphanum = true) :
    words word before (c.toLower :: cs) = words (c.toLower :: word) (some c.toLower) cs :=
  words_of_isAlphanum ((isAlphanum_toLower c).trans hc) (startsWord_of_not_isUpper (Char.isUpper_toLower_eq_false c))

theorem words_map_toLower_markWords (word : List Char) (before earlier : Option Char) :
    words (word.map Char.toLower) earlier ((markWords before cs).map Char.toLower) =
      (words word before cs).map (List.map Char.toLower) := by
  induction cs generalizing word before earlier with
  | nil => rw [markWords, words, List.map_nil, words, List.map_singleton, List.map_reverse]
  | cons c cs ih =>
    rw [markWords]
    by_cases hstarts : startsWord before c cs.head? = true
    · -- the underscore ends the word, and the letter after it begins the next one
      have hmark : ('_').toLower.isAlphanum = false := by decide
      rw [if_pos hstarts, words_of_startsWord hstarts, List.map_cons, List.map_cons, words_of_not_isAlphanum hmark,
        words_toLower (isAlphanum_of_startsWord hstarts), ← List.map_singleton, ih, List.map_cons, List.map_reverse]
    · have hwithin : startsWord before c cs.head? = false := Bool.eq_false_iff.2 hstarts
      rw [if_neg hstarts, List.map_cons]
      cases hc : c.isAlphanum with
      | true => rw [words_toLower hc, words_of_isAlphanum hc hwithin, ← List.map_cons, ih]
      | false =>
        have hlow : c.toLower.isAlphanum = false := (isAlphanum_toLower c).trans hc
        have hrest := ih [] (some c) (some c.toLower)
        rw [words_of_not_isAlphanum hlow, words_of_not_isAlphanum hc, List.map_cons, List.map_reverse, ← hrest,
          List.map_nil]

theorem markWords_of_no_capital (h : ∀ c ∈ cs, c.isUpper = false) : markWords before cs = cs := by
  induction cs generalizing before with
  | nil => rfl
  | cons c cs ih =>
    obtain ⟨hc, hcs⟩ := List.forall_mem_cons.1 h
    have hwithin : ¬startsWord before c cs.head? = true := Bool.eq_false_iff.1 (startsWord_of_not_isUpper hc)
    rw [markWords, if_neg hwithin, ih hcs]

theorem mem_markWords (h : c ∈ markWords before cs) : c = '_' ∨ c ∈ cs := by
  induction cs generalizing before with
  | nil => exact absurd h List.not_mem_nil
  | cons d cs ih =>
    rw [markWords] at h
    split at h
    · rcases List.mem_cons.1 h with rfl | h
      · exact .inl rfl
      · rcases List.mem_cons.1 h with rfl | h
        · exact .inr List.mem_cons_self
        · exact (ih h).imp_right (List.mem_cons_of_mem d)
    · rcases List.mem_cons.1 h with rfl | h
      · exact .inr List.mem_cons_self
      · exact (ih h).imp_right (List.mem_cons_of_mem d)

end Words

section Ascii

variable {name : String}

theorem toNat_toLower_lt {c : Char} (h : c.toNat < 128) : c.toLower.toNat < 128 := by
  have hall : ∀ n < 128, (Char.ofNat n).toLower.toNat < 128 := by decide
  rw [← Char.ofNat_toNat c]
  exact hall c.toNat h

theorem toList_snakeCase (h : IsAscii name) :
    (snakeCase name).toList = (markWords none name.toList).map Char.toLower := by
  have hmarked : ∀ c ∈ markWords none name.toList, c.toNat < 128 := by
    intro c hc
    rcases mem_markWords hc with rfl | hc
    · decide
    · exact h c hc
  rw [snakeCase, String.toList_ofList, lowerFrom_of_ascii hmarked]

theorem isAscii_snakeCase (h : IsAscii name) : IsAscii (snakeCase name) := by
  intro c hc
  rw [toList_snakeCase h] at hc
  obtain ⟨d, hd, rfl⟩ := List.mem_map.1 hc
  rcases mem_markWords hd with rfl | hd
  · decide
  · exact toNat_toLower_lt (h d hd)

theorem isUpper_of_mem_snakeCase (h : IsAscii name) : ∀ c ∈ (snakeCase name).toList, c.isUpper = false := by
  intro c hc
  rw [toList_snakeCase h] at hc
  obtain ⟨d, -, rfl⟩ := List.mem_map.1 hc
  exact Char.isUpper_toLower_eq_false d

theorem words_snakeCase (h : IsAscii name) :
    words [] none (snakeCase name).toList = (words [] none name.toList).map (List.map Char.toLower) := by
  rw [toList_snakeCase h]
  exact words_map_toLower_markWords [] none none

theorem snakeCase_ne_empty (h : IsAscii name) (hne : name ≠ "") : snakeCase name ≠ "" := by
  intro hempty
  have hlist : (markWords none name.toList).map Char.toLower = [] := by rw [← toList_snakeCase h, hempty]; rfl
  cases hname : name.toList with
  | nil => exact hne (String.toList_eq_nil_iff.1 hname)
  | cons c cs =>
    rw [hname, markWords] at hlist
    split at hlist
    · exact List.cons_ne_nil _ _ hlist
    · exact List.cons_ne_nil _ _ hlist

end Ascii

end Text

open Text TableAccess

namespace TableAccess

theorem word?_ne_nil {cs w rest : List Char} (h : word? cs = some (w, rest)) : w ≠ [] := by
  rw [word?] at h
  split at h
  · cases h
  · next hne =>
    obtain ⟨rfl, -⟩ := Prod.mk.inj (Option.some.inj h)
    exact fun hnil => hne (List.isEmpty_iff.2 hnil)

theorem modelCall_ne_nil {before : Option Char} {cs w rest : List Char} (h : modelCall before cs = some (w, rest)) :
    w ≠ [] := by
  simp only [modelCall, Option.bind_eq_bind, Option.bind_eq_some_iff, Option.pure_def, Option.some.injEq,
    Prod.mk.injEq] at h
  obtain ⟨_, -, _, -, _, -, ⟨name, tail⟩, hword, _, -, rfl, -⟩ := h
  exact word?_ne_nil hword

theorem ne_empty_of_mem_matches? {before : Option Char} {skip : Nat} {cs : List Char} {name : String}
    (h : name ∈ matches? modelCall before skip cs) : name ≠ "" := by
  induction cs generalizing before skip with
  | nil => exact absurd h List.not_mem_nil
  | cons c cs ih =>
    cases skip with
    | succ skip => exact ih h
    | zero =>
      rw [matches?] at h
      split at h
      · next w rest hmatch =>
        rcases List.mem_cons.1 h with rfl | h
        · exact fun hempty => modelCall_ne_nil hmatch (String.ofList_eq_empty_iff.1 hempty)
        · exact ih h
      · exact ih h

end TableAccess

/-- A name in camel case and the same name with underscores have the same words, and underscores are added only once. So
the table that is named after a class of models has the words of the class. -/
theorem nameTokens_snakeCase {name : String} (h : IsAscii name) :
    nameTokens (snakeCase name) = nameTokens name ∧ snakeCase (snakeCase name) = snakeCase name ∧
      ∀ text, name ∈ namedBy modelCall text → snakeCase name ∈ sqlTables text := by
  refine ⟨?_, ?_, fun text hmodel => ?_⟩
  · rw [nameTokens, words_snakeCase h, nameTokens, List.filter_map, List.map_map]
    simp only [Function.comp_def, List.length_map, List.map_map, Char.toLower_toLower_eq_toLower]
  · apply String.toList_injective
    have hlow : ∀ c ∈ (snakeCase name).toList, c.toLower = id c := fun c hc =>
      Char.toLower_eq_of_not_isUpper (Bool.eq_false_iff.1 (isUpper_of_mem_snakeCase h c hc))
    rw [toList_snakeCase (isAscii_snakeCase h), markWords_of_no_capital (isUpper_of_mem_snakeCase h),
      List.map_congr_left hlow, List.map_id]
  · have hne : name ≠ "" := ne_empty_of_mem_matches? hmodel
    exact mem_sqlTables_iff.2 ⟨snakeCase_ne_empty h hne, .inr (.inl (List.mem_map_of_mem hmodel))⟩

def responseQuery : String := "db.Model(&HTTPResponseV2\x7b\x7d).Find(&rows)"

theorem nameTokens_snakeCase_httpResponse :
    IsAscii "HTTPResponseV2" ∧ snakeCase "HTTPResponseV2" = "http_response_v2" ∧
      snakeCase "http_response_v2" = "http_response_v2" ∧ "http_response_v2" ∈ sqlTables responseQuery ∧
      nameTokens "http_response_v2" = ["http", "response"] ∧ nameTokens "HTTPResponseV2" = ["http", "response"] := by
  have hascii : IsAscii "HTTPResponseV2" := by simp [IsAscii]
  have hsnake : snakeCase "HTTPResponseV2" = "http_response_v2" := by decide +kernel
  have hnamed : "HTTPResponseV2" ∈ namedBy modelCall responseQuery := by decide +kernel
  have hwords : nameTokens "HTTPResponseV2" = ["http", "response"] := by decide +kernel
  obtain ⟨htokens, hagain, htable⟩ := nameTokens_snakeCase hascii
  rw [hsnake] at htokens hagain htable
  exact ⟨hascii, hsnake, hagain, htable responseQuery hnamed, htokens.trans hwords, hwords⟩

/-- Not so for other letters: the Kelvin sign belongs to no word, but its lower case is a letter. -/
example : nameTokens (snakeCase "max\u212A") = ["maxk"] ∧ nameTokens "max\u212A" = ["max"] := by decide +kernel

end Demarcation
