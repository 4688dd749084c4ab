import Demarcation.Proofs.FloatOrder
import Demarcation.Scan

namespace Demarcation.FloatOrder

open Float.Model.UnpackedFloat
open Float.Model (Format UnpackedFloat)

def IsPositive (x : Float) : Prop := signOf x.toModel.unpack = some .positive

section Arithmetic

variable {x y : Float}

theorem IsPositive.isNaN (h : IsPositive x) : x.isNaN = false := isNaN_eq_false_iff.2 ⟨_, h⟩

theorem IsPositive.eq_of_placeOf_eq (hx : IsPositive x) (hy : IsPositive y)
    (h : placeOf x.toModel.unpack = placeOf y.toModel.unpack) : x = y :=
  unpack_injective (FloatOrder.eq_of_placeOf_eq hx hy h)

theorem signOf_normalize (spec : Format) (m : Nat) (e : Int) :
    signOf (.normalize spec m e .positive) = some .positive := by
  rw [UnpackedFloat.normalize]
  split
  · rename_i hlt
    rw [compare_lt_iff_lt] at hlt
    omega
  · rfl
  · exact signOf_roundWithAccuracy ..

theorem signOf_add (spec : Format) {u v : UnpackedFloat} (hu : signOf u = some .positive)
    (hv : signOf v = some .positive) : signOf (.add spec u v) = some .positive := by
  cases u with
  | notANumber => cases hu
  | infinity s =>
    cases hu
    cases v with
    | notANumber => cases hv
    | infinity t | zero t | finite t =>
      cases hv
      rfl
  | zero s =>
    cases hu
    cases v with
    | notANumber => cases hv
    | infinity t | zero t | finite t =>
      cases hv
      rfl
  | finite s m e hm =>
    cases hu
    cases v with
    | notANumber => cases hv
    | infinity t | zero t =>
      cases hv
      rfl
    | finite t n f hn =>
      cases hv
      exact signOf_normalize ..

theorem IsPositive.add (hx : IsPositive x) (hy : IsPositive y) : IsPositive (x + y) :=
  (signOf_unpack_pack _).trans (signOf_add _ hx hy)

theorem zero_le_placeOf {u : UnpackedFloat} (h : signOf u = some .positive) : placeOf (.zero .positive) ≤ placeOf u := by
  cases u with
  | notANumber => cases h
  | zero s => exact le_rfl
  | infinity s =>
    cases h
    decide
  | finite s m e hm =>
    cases h
    simp [placeOf, Sign.apply, Prod.Lex.toLex_le_toLex]

theorem signOf_of_zero_lt_placeOf {u : UnpackedFloat} (h : placeOf (.zero .positive) < placeOf u) :
    signOf u = some .positive := by
  cases u with
  | notANumber | zero s => exact absurd h (lt_irrefl _)
  | infinity s =>
    cases s with
    | positive => rfl
    | negative => exact absurd h (by decide)
  | finite s m e hm =>
    cases s with
    | positive => rfl
    | negative => simp [placeOf, Sign.apply, Prod.Lex.toLex_lt_toLex] at h

theorem IsPositive.max (hx : IsPositive x) (y : Float) : IsPositive (Scalar.max x y) := by
  rw [Scalar.max]
  split
  · rename_i hlt
    obtain ⟨-, -, hplace⟩ := lt_iff_placeOf.1 hlt
    exact signOf_of_zero_lt_placeOf ((zero_le_placeOf hx).trans_lt hplace)
  · exact hx

theorem IsPositive.min (hx : IsPositive x) (hy : IsPositive y) : IsPositive (Scalar.min x y) := by
  rw [Scalar.min]
  split
  · exact hy
  · exact hx

theorem IsPositive.div_finite {n : Nat} {f : Int} {hn : 0 < n} (hx : IsPositive x)
    (hy : y.toModel.unpack = .finite .positive n f hn) : IsPositive (x / y) := by
  refine (signOf_unpack_pack _).trans ?_
  rw [hy]
  exact signOf_div_finite _ hn hx

theorem isPositive_ofNat (n : Nat) : IsPositive (Scalar.ofNat n) := by
  change IsPositive (Float.ofScientific n true 0)
  rw [Float.ofScientific]
  split
  · obtain ⟨m, f, hm, hone⟩ : ∃ m f hm,
        Float.exactlyRepresentablePowersOfTen[0].toModel.unpack = .finite .positive m f hm := ⟨_, _, _, rfl⟩
    exact IsPositive.div_finite ((signOf_unpack_pack _).trans (signOf_normalize ..)) hone
  · exact (signOf_unpack_pack _).trans (signOf_ofScientific ..)

end Arithmetic

section Weights

theorem isPositive_foldl {α : Type} (counts : α → Bool) (bonus : α → Nat) (items : List α) {score : Float}
    (h : IsPositive score) :
    IsPositive (items.foldl (fun score a => if counts a then score + Scalar.ofNat (bonus a) else score) score) := by
  induction items generalizing score with
  | nil => exact h
  | cons a items ih =>
    rw [List.foldl_cons]
    apply ih
    split
    · exact h.add (isPositive_ofNat _)
    · exact h

theorem isPositive_weight (path : String) (size : Nat) : IsPositive (Sampling.weight Float path size) := by
  have hdepth := (isPositive_ofNat 0).max (Scalar.ofNat 5 - Scalar.ofNat (Text.components path).length)
  have hsize : IsPositive (Scalar.ofNat size / Scalar.ofNat 10000) := by
    obtain ⟨m, f, hm, hdivisor⟩ : ∃ m f hm, (Scalar.ofNat 10000 : Float).toModel.unpack = .finite .positive m f hm :=
      ⟨_, _, _, rfl⟩
    exact (isPositive_ofNat size).div_finite hdivisor
  have hnamed := isPositive_foldl
    (fun h : List String × Nat => h.1.any fun word =>
      Sampling.mentions word.toList (Text.lowerFrom [] (Text.normalPath path).toList))
    (·.2) Sampling.hints hdepth
  exact hnamed.add ((isPositive_ofNat 3).min hsize)

end Weights

end Demarcation.FloatOrder
