import Mathlib.Order.Defs.LinearOrder
import Demarcation.Boundary
import Demarcation.Proofs.ExactScalar

namespace Demarcation

class LawfulScalar (R : Type) [Scalar R] where
  Place : Type
  [linearOrder : LinearOrder Place]
  IsNumber : R → Prop
  place : R → Place
  lt_iff {a b : R} : Scalar.lt a b = true ↔ IsNumber a ∧ IsNumber b ∧ place a < place b
  isNumber_share (x : R) : IsNumber (Scalar.share x)
  isNumber_ratio (m n : Nat) : IsNumber (Scalar.ratio m n : R)
  ratio_eq_of_place_eq {m n m' n' : Nat} :
    place (Scalar.ratio m n : R) = place (Scalar.ratio m' n' : R) → (Scalar.ratio m n : R) = Scalar.ratio m' n'
  share_one : Scalar.share (Scalar.ofNat 1 : R) = Scalar.ofNat 1

attribute [reducible, instance] LawfulScalar.linearOrder

instance : LawfulScalar Rat where
  Place := Rat
  IsNumber _ := True
  place x := x
  lt_iff := by simp only [Scalar.lt_rat, true_and, implies_true]
  isNumber_share _ := trivial
  isNumber_ratio _ _ := trivial
  ratio_eq_of_place_eq h := h
  share_one := by decide +kernel

end Demarcation
