import Mathlib.Algebra.Order.BigOperators.Group.List
import Mathlib.Algebra.Order.Field.Rat
import Demarcation.Scalar

namespace Demarcation.Scalar

theorem ofNat_rat (n : Nat) : (ofNat n : Rat) = n := by
  change (n : Rat) / ((1 : Nat) : Rat) = n
  rw [Nat.cast_one, div_one]

theorem lt_rat {a b : Rat} : lt a b = true ↔ a < b := decide_eq_true_iff

theorem sum_rat (xs : List Rat) : sum xs = xs.sum := by
  rw [sum, ofNat_rat, List.sum_eq_foldl]
  rfl

theorem mean_rat {xs : List Rat} (h : xs ≠ []) : mean xs = xs.sum / xs.length := by
  rw [mean, if_neg (by simpa using h), sum_rat, ofNat_rat]

theorem min_rat (a b : Rat) : Scalar.min a b = a ⊓ b := by
  by_cases h : b < a
  · rw [Scalar.min, if_pos (lt_rat.2 h), inf_eq_right.2 h.le]
  · rw [Scalar.min, if_neg (mt lt_rat.1 h), inf_eq_left.2 (not_lt.1 h)]

theorem max_rat (a b : Rat) : Scalar.max a b = a ⊔ b := by
  by_cases h : a < b
  · rw [Scalar.max, if_pos (lt_rat.2 h), sup_eq_right.2 h.le]
  · rw [Scalar.max, if_neg (mt lt_rat.1 h), sup_eq_left.2 (not_lt.1 h)]

theorem clamp_rat {x : Rat} (h₀ : 0 ≤ x) (h₁ : x ≤ 1) : clamp x = x := by
  rw [clamp, min_rat, max_rat, ofNat_rat, ofNat_rat, Nat.cast_one, Nat.cast_zero, inf_eq_right.2 h₁, sup_eq_right.2 h₀]

theorem length_pos_rat {xs : List Rat} (h : xs ≠ []) : (0 : Rat) < xs.length :=
  Nat.cast_pos.2 (List.length_pos_iff.2 h)

theorem exists_le_mean {xs : List Rat} (h : xs ≠ []) : ∃ x ∈ xs, x ≤ mean xs := by
  apply List.exists_le_of_sum_le h (fun x => x) (fun _ => mean xs)
  rw [List.map_id', List.map_const', List.sum_replicate, nsmul_eq_mul, mean_rat h,
    mul_div_cancel₀ _ (length_pos_rat h).ne']

theorem exists_mean_le {xs : List Rat} (h : xs ≠ []) : ∃ x ∈ xs, mean xs ≤ x := by
  apply List.exists_le_of_sum_le h (fun _ => mean xs) (fun x => x)
  rw [List.map_id', List.map_const', List.sum_replicate, nsmul_eq_mul, mean_rat h,
    mul_div_cancel₀ _ (length_pos_rat h).ne']

end Demarcation.Scalar
