import Mathlib.Data.Rat.Lemmas
import Mathlib.Tactic.Linarith
import Mathlib.Tactic.Ring
import Demarcation.Boundary
import Demarcation.Proofs.ExactScalar

namespace Demarcation

open Decimal

section Quotients

variable {m n k q : Nat}

theorem roundDiv_mul_right (m n : Nat) (hk : 0 < k) : roundDiv (m * k) (n * k) = roundDiv m n := by
  have hdiv : m * k / (n * k) = m / n := Nat.mul_div_mul_right m n hk
  have hmod : m * k % (n * k) = m % n * k := Nat.mul_mod_mul_right k m n
  have hlow : 2 * (m % n * k) < n * k ↔ 2 * (m % n) < n := by
    rw [← Nat.mul_assoc]
    exact Nat.mul_lt_mul_right hk
  have hhigh : n * k < 2 * (m % n * k) ↔ n < 2 * (m % n) := by
    rw [← Nat.mul_assoc]
    exact Nat.mul_lt_mul_right hk
  simp only [roundDiv, hdiv, hmod, hlow, hhigh]

theorem roundDiv_mul_self (q : Nat) (hn : 0 < n) : roundDiv (q * n) n = q := by
  simp [roundDiv, hn]

theorem roundDiv_le (hn : 0 < n) (h : m ≤ q * n) : roundDiv m n ≤ q := by
  have hbound := two_mul_roundDiv_le m hn
  by_contra hlt
  have hmul : (q + 1) * n ≤ roundDiv m n * n := Nat.mul_le_mul_right n (not_le.1 hlt)
  rw [Nat.add_mul, Nat.one_mul] at hmul
  omega

theorem le_roundDiv (hn : 0 < n) (h : q * n ≤ m) : q ≤ roundDiv m n := by
  have hbound := le_two_mul_roundDiv m hn
  by_contra hlt
  have hmul : (roundDiv m n + 1) * n ≤ q * n := Nat.mul_le_mul_right n (not_le.1 hlt)
  rw [Nat.add_mul, Nat.one_mul] at hmul
  omega

end Quotients

section Fractions

variable {m n : Nat}

theorem roundRat_div (places m : Nat) (hn : 0 < n) :
    roundRat places ((m : Rat) / n) = (roundDiv (m * tenTo places) n : Nat) / (tenTo places : Nat) := by
  obtain ⟨c, hm, hd⟩ := Rat.exists_eq_mul_div_num_and_eq_mul_div_den (m : Int) (Int.natCast_ne_zero.2 hn.ne')
  have hnum : 0 ≤ ((m : Rat) / n).num := Rat.num_nonneg.2 (div_nonneg (Nat.cast_nonneg m) (Nat.cast_nonneg n))
  simp only [Int.cast_natCast] at hm hd
  rw [roundRat]
  generalize (m : Rat) / n = x at hm hd hnum
  -- The fraction need not be in lowest terms, but a common factor does not matter.
  have hc : 0 < c := by
    by_contra hc
    have hle : c * (x.den : Int) ≤ 0 := mul_nonpos_of_nonpos_of_nonneg (not_lt.1 hc) (Int.natCast_nonneg _)
    omega
  obtain ⟨c, rfl⟩ := Int.eq_ofNat_of_zero_le hc.le
  obtain ⟨a, ha⟩ := Int.eq_ofNat_of_zero_le hnum
  rw [ha] at hm ⊢
  have hm' : m = a * c := by
    rw [Nat.mul_comm]
    exact_mod_cast hm
  have hn' : n = x.den * c := by
    rw [Nat.mul_comm]
    exact_mod_cast hd
  have hcancel : roundDiv (m * tenTo places) n = roundDiv (a * tenTo places) x.den := by
    rw [hm', hn', Nat.mul_right_comm]
    exact roundDiv_mul_right _ _ (Int.natCast_pos.1 hc)
  have hsign : ¬ (a : Int) < 0 := Int.not_lt.2 (Int.natCast_nonneg a)
  rw [hcancel, if_neg hsign, Int.natAbs_natCast, Int.cast_natCast]

theorem roundTo_div {places m n q : Nat} (hn : 0 < n) (h : roundDiv (m * tenTo places) n = q) :
    Scalar.roundTo places ((m : Rat) / n) = q / (tenTo places : Nat) := by
  rw [← h]
  exact roundRat_div places m hn

end Fractions

section Shares

def IsShare {R : Type} [Scalar R] (x : R) : Prop := ∃ y, x = Scalar.share y

theorem clamp_bounds (x : Rat) : 0 ≤ Scalar.clamp x ∧ Scalar.clamp x ≤ 1 := by
  rw [Scalar.clamp, Scalar.min_rat, Scalar.max_rat, Scalar.ofNat_rat, Scalar.ofNat_rat]
  simp

theorem exists_share_eq {x : Rat} (h₀ : 0 ≤ x) (h₁ : x ≤ 1) :
    ∃ m : Nat, x = (m : Rat) / x.den ∧ m ≤ x.den ∧
      Scalar.share x = (roundDiv (m * tenTo 6) x.den : Nat) / (1000000 : Nat) := by
  obtain ⟨m, hm⟩ := Int.eq_ofNat_of_zero_le (Rat.num_nonneg.2 h₀)
  have hx : x = (m : Rat) / (x.den : Rat) := by
    conv_lhs => rw [← Rat.num_div_den x, hm]
    rw [Int.cast_natCast]
  have hle : m ≤ x.den := by
    have hnum := Rat.num_le_denom_iff.2 h₁
    omega
  refine ⟨m, hx, hle, ?_⟩
  rw [Scalar.share, Scalar.clamp_rat h₀ h₁]
  conv_lhs => rw [hx]
  exact roundTo_div x.den_pos rfl

theorem exists_eq_millionths {x : Rat} (h : IsShare x) : ∃ k : Nat, k ≤ 1000000 ∧ x = (k : Rat) / (1000000 : Nat) := by
  obtain ⟨y, rfl⟩ := h
  obtain ⟨h₀, h₁⟩ := clamp_bounds y
  have hclamp : Scalar.share y = Scalar.share (Scalar.clamp y) := by rw [Scalar.share, Scalar.share, Scalar.clamp_rat h₀ h₁]
  obtain ⟨m, -, hle, hshare⟩ := exists_share_eq h₀ h₁
  refine ⟨roundDiv (m * tenTo 6) (Scalar.clamp y).den, ?_, hclamp.trans hshare⟩
  apply roundDiv_le (Scalar.clamp y).den_pos
  rw [Nat.mul_comm]
  exact Nat.mul_le_mul_left _ hle

theorem le_share {x y : Rat} (hy : IsShare y) (h : y ≤ x) (h₁ : x ≤ 1) : y ≤ Scalar.share x := by
  obtain ⟨k, -, rfl⟩ := exists_eq_millionths hy
  have h₀ : 0 ≤ x := (div_nonneg (Nat.cast_nonneg _) (Nat.cast_nonneg _)).trans h
  obtain ⟨m, hx, -, hshare⟩ := exists_share_eq h₀ h₁
  have hden : (0 : Rat) < x.den := Nat.cast_pos.2 x.den_pos
  have hmillion : (0 : Rat) < (1000000 : Nat) := by norm_num
  have hle : k ≤ roundDiv (m * tenTo 6) x.den := by
    apply le_roundDiv x.den_pos
    rw [hx, div_le_div_iff₀ hmillion hden] at h
    exact_mod_cast h
  rw [hshare]
  exact (div_le_div_iff_of_pos_right hmillion).2 (Nat.cast_le.2 hle)

variable {k q : Nat}

theorem share_millionths (h : k ≤ 1000000) :
    Scalar.share ((k : Rat) / (1000000 : Nat)) = (k : Rat) / (1000000 : Nat) := by
  have h₀ : 0 ≤ (k : Rat) / (1000000 : Nat) := div_nonneg (Nat.cast_nonneg _) (Nat.cast_nonneg _)
  have h₁ : (k : Rat) / (1000000 : Nat) ≤ 1 := div_le_one_of_le₀ (Nat.cast_le.2 h) (Nat.cast_nonneg _)
  rw [Scalar.share, Scalar.clamp_rat h₀ h₁]
  exact roundTo_div (by decide) (roundDiv_mul_self k (by decide))

theorem share_of_isShare {x : Rat} (h : IsShare x) : Scalar.share x = x := by
  obtain ⟨k, hk, rfl⟩ := exists_eq_millionths h
  exact share_millionths hk

theorem percentage_millionths (k : Nat) :
    Scalar.roundTo 2 ((k : Rat) / (1000000 : Nat) * Scalar.ofNat 100) = (roundDiv k 100 : Nat) / (100 : Nat) := by
  have hx : (k : Rat) / (1000000 : Nat) * Scalar.ofNat 100 = (k : Rat) / (10000 : Nat) := by
    rw [Scalar.ofNat_rat]
    push_cast
    ring
  rw [hx]
  exact roundTo_div (by decide) (roundDiv_mul_right k 100 (by decide))

theorem share_percentage (q : Nat) :
    Scalar.roundTo 6 ((q : Rat) / (100 : Nat) / Scalar.ofNat 100) = (q * 100 : Nat) / (1000000 : Nat) := by
  have hx : (q : Rat) / (100 : Nat) / Scalar.ofNat 100 = (q : Rat) / (10000 : Nat) := by
    rw [Scalar.ofNat_rat]
    push_cast
    ring
  rw [hx]
  refine roundTo_div (by decide) ?_
  have hexact : q * tenTo 6 = q * 100 * 10000 := by
    rw [Nat.mul_assoc]
    rfl
  rw [hexact]
  exact roundDiv_mul_self _ (by decide)

theorem roundTo_four_millionths (k : Nat) :
    Scalar.roundTo 4 ((k : Rat) / (1000000 : Nat)) = (roundDiv k 100 * 100 : Nat) / (1000000 : Nat) := by
  have hround : Scalar.roundTo 4 ((k : Rat) / (1000000 : Nat)) = (roundDiv k 100 : Nat) / (10000 : Nat) :=
    roundTo_div (by decide) (roundDiv_mul_right k 100 (by decide))
  rw [hround]
  push_cast
  ring

theorem share_of_percentage {x : Rat} (h : IsShare x) :
    Scalar.share (Scalar.roundTo 6 (Scalar.roundTo 2 (x * Scalar.ofNat 100) / Scalar.ofNat 100)) =
      Scalar.roundTo 4 x := by
  obtain ⟨k, hk, rfl⟩ := exists_eq_millionths h
  have hq : roundDiv k 100 ≤ 10000 := roundDiv_le (by decide) hk
  rw [percentage_millionths, share_percentage, share_millionths (by omega), roundTo_four_millionths]

theorem percentage_roundTo {x : Rat} (h : IsShare x) :
    Scalar.roundTo 2 (Scalar.roundTo 4 x * Scalar.ofNat 100) = Scalar.roundTo 2 (x * Scalar.ofNat 100) := by
  obtain ⟨k, hk, rfl⟩ := exists_eq_millionths h
  rw [roundTo_four_millionths, percentage_millionths, percentage_millionths, roundDiv_mul_self _ (by decide)]

theorem exists_nearest_roundTo_four {x : Rat} (h : IsShare x) :
    ∃ n : Nat, Scalar.roundTo 4 x = n / (10000 : Nat) ∧ |(n : Rat) / (10000 : Nat) - x| ≤ 1 / (20000 : Nat) := by
  obtain ⟨k, -, rfl⟩ := exists_eq_millionths h
  refine ⟨roundDiv k 100, roundTo_div (by decide) (roundDiv_mul_right k 100 (by decide)), ?_⟩
  have hhigh : 2 * (roundDiv k 100 * 100) ≤ 2 * k + 100 := two_mul_roundDiv_le k (by decide)
  have hlow : 2 * k ≤ 2 * (roundDiv k 100 * 100) + 100 := le_two_mul_roundDiv k (by decide)
  generalize roundDiv k 100 = n at hhigh hlow
  have hhigh' : (2 : Rat) * (n * 100) ≤ 2 * k + 100 := by exact_mod_cast hhigh
  have hlow' : (2 : Rat) * k ≤ 2 * (n * 100) + 100 := by exact_mod_cast hlow
  rw [abs_le]
  push_cast
  constructor <;> linarith

end Shares

end Demarcation
