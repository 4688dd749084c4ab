import Mathlib.Data.List.Basic
import Demarcation.Text.Glob
import Demarcation.Text.Split

namespace Demarcation.Text.Glob

variable {ts : List (Option Token)} {cs : List Char}

theorem matchTokens_nil : matchTokens [] cs = true ↔ cs = [] := by
  rw [matchTokens, List.isEmpty_iff]

theorem matchTokens_char {c : Char} :
    matchTokens (some (.char c) :: ts) cs = true ↔ ∃ rest, cs = c :: rest ∧ matchTokens ts rest = true := by
  cases cs with
  | nil =>
    rw [matchTokens]
    simp
  | cons d cs =>
    rw [matchTokens, Bool.and_eq_true, beq_iff_eq]
    constructor
    · rintro ⟨rfl, hmatch⟩
      exact ⟨cs, rfl, hmatch⟩
    · rintro ⟨rest, hcs, hmatch⟩
      obtain ⟨rfl, rfl⟩ := List.cons.inj hcs
      exact ⟨rfl, hmatch⟩

theorem matchTokens_star :
    matchTokens (some .star :: ts) cs = true ↔ ∃ rest, rest <:+ cs ∧ matchTokens ts rest = true := by
  rw [matchTokens]
  induction cs with
  | nil => simp [matchTokens.go]
  | cons c cs ih =>
    rw [matchTokens.go, Bool.or_eq_true, ih]
    simp only [List.suffix_cons_iff, or_and_right, exists_or, exists_eq_left]

def Fits : List (List Char) → List Char → Prop
  | [], cs => cs = []
  | [piece], cs => cs = piece
  | piece :: next :: pieces, cs => ∃ skipped rest, cs = piece ++ (skipped ++ rest) ∧ Fits (next :: pieces) rest

variable {piece next : List Char} {pieces : List (List Char)}

theorem fits_singleton : Fits [piece] cs ↔ cs = piece := Iff.rfl

theorem fits_cons_cons :
    Fits (piece :: next :: pieces) cs ↔ ∃ skipped rest, cs = piece ++ (skipped ++ rest) ∧ Fits (next :: pieces) rest :=
  Iff.rfl

theorem fits_nil_cons (h : pieces ≠ []) : Fits ([] :: pieces) cs ↔ ∃ rest, rest <:+ cs ∧ Fits pieces rest := by
  obtain ⟨next, pieces, rfl⟩ := List.exists_cons_of_ne_nil h
  rw [fits_cons_cons]
  constructor
  · rintro ⟨skipped, rest, hcs, hfits⟩
    exact ⟨rest, ⟨skipped, hcs.symm⟩, hfits⟩
  · rintro ⟨rest, ⟨skipped, hcs⟩, hfits⟩
    exact ⟨skipped, rest, hcs.symm, hfits⟩

theorem fits_cons_char {c : Char} :
    Fits ((c :: piece) :: pieces) cs ↔ ∃ rest, cs = c :: rest ∧ Fits (piece :: pieces) rest := by
  cases pieces with
  | nil => simp [fits_singleton]
  | cons next pieces =>
    simp only [fits_cons_cons, List.cons_append]
    constructor
    · rintro ⟨skipped, rest, hcs, hfits⟩
      exact ⟨_, hcs, skipped, rest, rfl, hfits⟩
    · rintro ⟨_, hcs, skipped, rest, rfl, hfits⟩
      exact ⟨skipped, rest, hcs, hfits⟩

theorem fits_cons_nil_cons : Fits (piece :: [] :: next :: pieces) cs ↔ Fits (piece :: next :: pieces) cs := by
  simp only [fits_cons_cons, List.nil_append]
  constructor
  · rintro ⟨skipped, _, rfl, more, rest, rfl, hfits⟩
    exact ⟨skipped ++ more, rest, by rw [List.append_assoc], hfits⟩
  · rintro ⟨skipped, rest, rfl, hfits⟩
    exact ⟨skipped, rest, rfl, [], rest, rfl, hfits⟩

theorem fits_beginning : Fits [piece, []] cs ↔ piece <+: cs := by
  rw [fits_cons_cons]
  constructor
  · rintro ⟨skipped, rest, rfl, -⟩
    exact List.prefix_append _ _
  · rintro ⟨skipped, rfl⟩
    exact ⟨skipped, [], by rw [List.append_nil], rfl⟩

theorem fits_ending : Fits [[], piece] cs ↔ piece <:+ cs := by
  rw [fits_nil_cons (List.cons_ne_nil _ _)]
  simp only [fits_singleton, exists_eq_right]

theorem fits_inside : Fits [[], piece, []] cs ↔ piece <:+: cs := by
  rw [fits_nil_cons (List.cons_ne_nil _ _), List.infix_iff_prefix_suffix]
  simp only [fits_beginning, and_comm]

theorem matchTokens_star_star :
    matchTokens (some .star :: some .star :: ts) cs = true ↔ matchTokens (some .star :: ts) cs = true := by
  simp only [matchTokens_star]
  constructor
  · rintro ⟨_, hrest, rest, hmore, hmatch⟩
    exact ⟨rest, hmore.trans hrest, hmatch⟩
  · rintro ⟨rest, hrest, hmatch⟩
    exact ⟨rest, hrest, rest, List.suffix_rfl, hmatch⟩

theorem matchTokens_tokens_star (fuel : Nat) (pattern : List Char) :
    matchTokens (tokens (fuel + 1) ('*' :: pattern)) cs = true ↔
      matchTokens (some .star :: tokens fuel pattern) cs = true := by
  rw [tokens]
  split
  · rename_i ts hts
    rw [hts, matchTokens_star_star]
  · rfl

def IsPlain (pattern : List Char) : Prop := '?' ∉ pattern ∧ '[' ∉ pattern

instance (pattern : List Char) : Decidable (IsPlain pattern) :=
  inferInstanceAs (Decidable ('?' ∉ pattern ∧ '[' ∉ pattern))

theorem matchTokens_tokens_iff {pattern : List Char} (hplain : IsPlain pattern) {fuel : Nat}
    (hfuel : pattern.length ≤ fuel) :
    matchTokens (tokens fuel pattern) cs = true ↔ Fits (splitAll '*' pattern) cs := by
  induction pattern generalizing fuel cs with
  | nil =>
    have htokens : tokens fuel [] = [] := by cases fuel <;> rfl
    rw [htokens, matchTokens_nil]
    rfl
  | cons c pattern ih =>
    obtain ⟨fuel, rfl⟩ : ∃ n, fuel = n + 1 := ⟨fuel - 1, by simp at hfuel; omega⟩
    obtain ⟨⟨hany, hplainAny⟩, hbracket, hplainBracket⟩ :
        ('?' ≠ c ∧ '?' ∉ pattern) ∧ '[' ≠ c ∧ '[' ∉ pattern := by
      simpa [IsPlain] using hplain
    have ih : ∀ cs, matchTokens (tokens fuel pattern) cs = true ↔ Fits (splitAll '*' pattern) cs :=
      fun cs => ih ⟨hplainAny, hplainBracket⟩ (Nat.le_of_succ_le_succ hfuel)
    obtain ⟨piece, pieces, hsplit⟩ := List.exists_cons_of_ne_nil (splitAll_ne_nil '*' pattern)
    by_cases hstar : c = '*'
    · subst hstar
      rw [matchTokens_tokens_star, matchTokens_star, splitAll, if_pos rfl, fits_nil_cons (splitAll_ne_nil '*' pattern)]
      simp only [ih]
    · have htokens : tokens (fuel + 1) (c :: pattern) = some (.char c) :: tokens fuel pattern := by
        rw [tokens]
        · exact hstar
        · exact hany.symm
        · exact hbracket.symm
      rw [htokens, matchTokens_char, splitAll, if_neg hstar, hsplit]
      simp only [fits_cons_char, ih, hsplit]

theorem accepts_iff_fits {pattern : String} (hplain : IsPlain pattern.toList) (path : String) :
    accepts pattern path = true ↔ Fits (splitAll '*' pattern.toList) path.toList :=
  matchTokens_tokens_iff hplain (Nat.le_refl _)

end Demarcation.Text.Glob
