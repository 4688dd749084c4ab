import Mathlib.Tactic.Linarith
import Demarcation.Clustering
import Demarcation.Proofs.ExactScalar
import Demarcation.Proofs.OverlapCounting

namespace Demarcation

open Text

section Shares

variable {α : Type} [LT α] [DecidableLT α] [Ordered α] [DecidableEq α] (s t : SortedSet α)

theorem SortedSet.jaccard_comm (R : Type) [Scalar R] : s.jaccard R t = t.jaccard R s := by
  rw [jaccard, jaccard, union_comm, inter_comm]

theorem SortedSet.jaccard_rat : s.jaccard Rat t = ((s ∩ t).size : Rat) / (s ∪ t).size := rfl

theorem SortedSet.jaccard_nonneg : 0 ≤ s.jaccard Rat t := by
  rw [jaccard_rat]
  exact div_nonneg (Nat.cast_nonneg _) (Nat.cast_nonneg _)

theorem SortedSet.jaccard_le_one : s.jaccard Rat t ≤ 1 := by
  rw [jaccard_rat]
  exact div_le_one_of_le₀ (Nat.cast_le.2 (size_inter_le_size_union s t)) (Nat.cast_nonneg _)

theorem SortedSet.jaccard_pos_iff : 0 < s.jaccard Rat t ↔ ∃ a ∈ s, a ∈ t := by
  have hcommon : 0 < (s ∩ t).size ↔ ∃ a ∈ s, a ∈ t := by
    rw [size_pos_iff]
    simp only [mem_inter]
  rw [jaccard_rat, ← hcommon]
  constructor
  · intro h
    by_contra hnone
    rw [Nat.eq_zero_of_not_pos hnone, Nat.cast_zero, zero_div] at h
    exact lt_irrefl _ h
  · intro h
    have hunion : 0 < (s ∪ t).size := h.trans_le (size_inter_le_size_union s t)
    exact div_pos (Nat.cast_pos.2 h) (Nat.cast_pos.2 hunion)

theorem SortedSet.third_lt_jaccard_iff : 1 / 3 < s.jaccard Rat t ↔ (s ∪ t).size < 3 * (s ∩ t).size := by
  rw [jaccard_rat, ← Nat.cast_lt (α := Rat), Nat.cast_mul]
  rcases Nat.eq_zero_or_pos (s ∪ t).size with hempty | hpos
  · have hnone : (s ∩ t).size = 0 := Nat.eq_zero_of_le_zero (hempty ▸ size_inter_le_size_union s t)
    rw [hempty, hnone]
    norm_num
  · rw [lt_div_iff₀ (Nat.cast_pos.2 hpos)]
    constructor <;> intro h <;> push_cast at h ⊢ <;> linarith

end Shares

theorem Text.endsWith_iff {s t : String} : s.endsWith t = true ↔ ∃ before, s = before ++ t := by
  rw [String.endsWith_eq_endsWith_toSlice, String.Slice.endsWith_string_iff, String.copy_toSlice]
  constructor
  · rintro ⟨before, h⟩
    refine ⟨String.ofList before, ?_⟩
    rw [← String.toList_inj, String.toList_append, String.toList_ofList, h]
  · rintro ⟨before, rfl⟩
    exact ⟨before.toList, String.toList_append.symm⟩

namespace Declaration

def Refers (d e : Declaration) : Prop := e.name ∈ d.references

def Calls (d e : Declaration) : Prop :=
  ∃ call ∈ d.calls, call = e.name ∨ ∃ qualifier, call = qualifier ++ ("." ++ e.name)

variable (d e : Declaration)

theorem refersEither_comm : d.refersEither e = e.refersEither d := Bool.or_comm _ _

theorem callsEither_comm : d.callsEither e = e.callsEither d := Bool.or_comm _ _

variable {d e}

theorem refersEither_iff : d.refersEither e = true ↔ d.Refers e ∨ e.Refers d := by
  simp only [refersEither, Refers, Bool.or_eq_true, List.contains_iff_mem]

theorem callsTo_iff : d.callsTo e = true ↔ d.Calls e := by
  simp only [callsTo, Calls, List.any_eq_true, Bool.or_eq_true, beq_iff_eq, endsWith_iff]

theorem callsEither_iff : d.callsEither e = true ↔ d.Calls e ∨ e.Calls d := by
  rw [callsEither, Bool.or_eq_true, callsTo_iff, callsTo_iff]

theorem directory_eq_of_file_eq (h : d.file = e.file) : d.directory = e.directory := congrArg directoryOf h

end Declaration

section Strength

def wordSet (name : String) : SortedSet String := SortedSet.ofList (nameTokens name)

def Tie.share (holds : Bool) (t : Tie) : Rat := if holds then t.weight Rat else 0

theorem Tie.weight_rat (t : Tie) :
    t.weight Rat = match t with
      | reference => 8 / 10
      | call => 6 / 10
      | sameFile => 4 / 10
      | sameDirectory => 2 / 10 := by
  cases t <;> rfl

theorem Tie.share_nonneg (holds : Bool) (t : Tie) : 0 ≤ t.share holds := by
  rw [share, weight_rat]
  cases holds <;> cases t <;> norm_num

theorem wordSimilarity_comm (R : Type) [Scalar R] (a b : String) : wordSimilarity R a b = wordSimilarity R b a :=
  SortedSet.jaccard_comm _ _ R

theorem strength_comm (R : Type) [Scalar R] (d e : Declaration) : strength R d e = strength R e d := by
  simp only [strength, d.refersEither_comm e, d.callsEither_comm e, wordSimilarity_comm R d.name e.name,
    Bool.beq_comm (a := d.file), Bool.beq_comm (a := d.directory)]

def totalStrength (d e : Declaration) : Rat :=
  Tie.reference.share (d.refersEither e) + Tie.call.share (d.callsEither e) + Tie.sameFile.share (d.file == e.file)
    + Tie.sameDirectory.share (d.directory == e.directory) + wordSimilarity Rat d.name e.name * (3 / 10)

theorem strength_rat (d e : Declaration) : strength Rat d e = totalStrength d e ⊓ 1 := by
  have hadd (s : Rat) (holds : Bool) (t : Tie) : (if holds then s + t.weight Rat else s) = s + t.share holds := by
    cases holds
    · exact (add_zero s).symm
    · rfl
  simp only [strength, hadd, Scalar.min_rat, Scalar.ofNat_rat, totalStrength, Nat.cast_zero, zero_add, Nat.cast_one]
  rfl

section Threshold

variable {d e : Declaration}

theorem totalStrength_nonneg : 0 ≤ totalStrength d e := by
  have hwords : 0 ≤ wordSimilarity Rat d.name e.name := SortedSet.jaccard_nonneg _ _
  have hreference := Tie.reference.share_nonneg (d.refersEither e)
  have hcall := Tie.call.share_nonneg (d.callsEither e)
  have hfile := Tie.sameFile.share_nonneg (d.file == e.file)
  have hdirectory := Tie.sameDirectory.share_nonneg (d.directory == e.directory)
  rw [totalStrength]
  linarith

theorem threshold_lt_totalStrength_iff :
    3 / 10 < totalStrength d e ↔
      d.refersEither e = true ∨ d.callsEither e = true ∨ d.file = e.file ∨
        d.directory = e.directory ∧
          (wordSet d.name ∪ wordSet e.name).size < 3 * (wordSet d.name ∩ wordSet e.name).size := by
  have hwords₀ : 0 ≤ wordSimilarity Rat d.name e.name := SortedSet.jaccard_nonneg _ _
  have hwords₁ : wordSimilarity Rat d.name e.name ≤ 1 := SortedSet.jaccard_le_one _ _
  have hthird : 1 / 3 < wordSimilarity Rat d.name e.name ↔ _ := SortedSet.third_lt_jaccard_iff _ _
  have hreference := Tie.reference.share_nonneg (d.refersEither e)
  have hcall := Tie.call.share_nonneg (d.callsEither e)
  have hfile := Tie.sameFile.share_nonneg (d.file == e.file)
  have hdirectory := Tie.sameDirectory.share_nonneg (d.directory == e.directory)
  simp only [Tie.share, Tie.weight_rat, beq_iff_eq] at hreference hcall hfile hdirectory
  simp only [totalStrength, Tie.share, Tie.weight_rat, beq_iff_eq]
  constructor
  · intro h
    by_contra hnone
    simp only [not_or, not_and] at hnone
    obtain ⟨hr, hc, hf, hd⟩ := hnone
    rw [if_neg hr, if_neg hc, if_neg hf] at h
    -- without a common directory even equal names only reach the threshold
    by_cases hsame : d.directory = e.directory
    · rw [if_pos hsame] at h
      exact hd hsame (hthird.1 (by linarith))
    · rw [if_neg hsame] at h
      linarith
  · rintro (h | h | h | ⟨hsame, hcommon⟩)
    · rw [if_pos h]
      linarith
    · rw [if_pos h]
      linarith
    · rw [if_pos h]
      linarith
    · have hsimilar := hthird.2 hcommon
      rw [if_pos hsame]
      linarith

end Threshold

/-- In exact arithmetic strength is symmetric and a share. Declarations are linked exactly if one refers to the other or
calls it, if they share a file, or if they share a directory and more than a third of the words of both names are common.
So declarations of different directories are never linked for their names alone. -/
theorem linked_iff_related (d e : Declaration) :
    strength Rat d e = strength Rat e d ∧ 0 ≤ strength Rat d e ∧ strength Rat d e ≤ 1 ∧
      (linked Rat d e = true ↔ 3 / 10 < strength Rat d e) ∧
      (3 / 10 < strength Rat d e ↔
        d.Refers e ∨ e.Refers d ∨ d.Calls e ∨ e.Calls d ∨ d.file = e.file ∨
          d.directory = e.directory ∧
            (wordSet d.name ∪ wordSet e.name).size < 3 * (wordSet d.name ∩ wordSet e.name).size) ∧
      (d.directory ≠ e.directory →
        (3 / 10 < strength Rat d e ↔ d.Refers e ∨ e.Refers d ∨ d.Calls e ∨ e.Calls d)) := by
  have hlinked : 3 / 10 < strength Rat d e ↔ d.Refers e ∨ e.Refers d ∨ d.Calls e ∨ e.Calls d ∨ d.file = e.file ∨
      d.directory = e.directory ∧
        (wordSet d.name ∪ wordSet e.name).size < 3 * (wordSet d.name ∩ wordSet e.name).size := by
    rw [strength_rat, lt_inf_iff, and_iff_left (by norm_num), threshold_lt_totalStrength_iff,
      Declaration.refersEither_iff, Declaration.callsEither_iff, or_assoc, or_assoc]
  refine ⟨strength_comm Rat d e, ?_, ?_, Scalar.lt_rat, hlinked, ?_⟩
  · rw [strength_rat]
    exact le_inf totalStrength_nonneg zero_le_one
  · rw [strength_rat]
    exact inf_le_right
  · intro hother
    have hfile : d.file ≠ e.file := mt Declaration.directory_eq_of_file_eq hother
    rw [hlinked]
    simp only [hfile, hother, false_and, or_false]

def billingReport : Declaration := { kind := .function, name := "monthlyReport", file := "billing/report.go", line := 4 }

def ordersReport : Declaration := { kind := .function, name := "monthlyReport", file := "orders/report.go", line := 7 }

theorem linked_iff_related_reports :
    billingReport.directory ≠ ordersReport.directory ∧ billingReport.name = ordersReport.name ∧
      ¬ 3 / 10 < strength Rat billingReport ordersReport := by
  have hother : billingReport.directory ≠ ordersReport.directory := by decide
  refine ⟨hother, rfl, ?_⟩
  rw [(linked_iff_related billingReport ordersReport).2.2.2.2.2 hother]
  simp [Declaration.Refers, Declaration.Calls, billingReport, ordersReport]

end Strength

end Demarcation
