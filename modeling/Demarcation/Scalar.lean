import Demarcation.Decimal.Shortest
import Demarcation.Decimal.Numeral
import Demarcation.Fault

/-!
Arithmetic of scores. Scores are computed once for any number type: with floating-point numbers when the program
runs, with rational numbers when a statement takes its weights as exact decimals.
-/

namespace Demarcation

open Decimal

class Scalar (R : Type) extends Add R, Sub R, Mul R, Div R, Inhabited R where
  /-- The number `m / 10 ^ p`. -/
  decimal (m p : Nat) : R
  /-- The number nearest to `m / n`, zero if one of them is zero. -/
  ratio (m n : Nat) : R
  lt : R → R → Bool
  isZero : R → Bool
  /-- The multiple of `10 ^ -places` nearest to a number, ties to the even multiple. -/
  roundTo (places : Nat) : R → R
  fixed (places : Nat) : R → String
  ofNumeral : Numeral → R
  /-- The integer part, toward zero. -/
  truncate : R → Except Fault Int
  text : R → String

namespace Scalar

variable {R : Type} [Scalar R]

def ofNat (n : Nat) : R := decimal n 0

def ofInt (i : Int) : R := if i < 0 then ofNat 0 - ofNat i.natAbs else ofNat i.natAbs

def le (a b : R) : Bool := lt a b || isZero (a - b)

/-- The smaller of two numbers, the first one if they cannot be told apart. -/
def min (a b : R) : R := if lt b a then b else a

def max (a b : R) : R := if lt a b then b else a

/-- The nearest number between zero and one; one for what is no number. -/
def clamp (x : R) : R := max (ofNat 0) (min (ofNat 1) x)

def sum (xs : List R) : R := xs.foldl (· + ·) (ofNat 0)

def mean (xs : List R) : R := if xs.isEmpty then ofNat 0 else sum xs / ofNat xs.length

def percent (places : Nat) (x : R) : String := fixed places (x * ofNat 100)

end Scalar

def floatOfDecimal (negative : Bool) (mantissa : Nat) (exponent : Int) : Float :=
  let size : Int := (Nat.toDigits 10 mantissa).length
  let x : Float :=
    if mantissa = 0 ∨ size + exponent < -400 then 0
    else if 400 < size + exponent then 1.0 / 0
    else Float.ofScientific mantissa (decide (exponent < 0)) exponent.natAbs
  if negative then -x else x

def floatRatio (m n : Nat) : Float where
  toModel := .pack
    (if h : 0 < m ∧ 0 < n then .div .binary64 (.finite .positive m 0 h.1) (.finite .positive n 0 h.2)
    else .zero .positive)

def truncateFloat (x : Float) : Except Fault Int :=
  match Binary.ofFloat? x with
  | none => .error (if x.isNaN then .nanToInteger else .infinityToInteger)
  | some b =>
    let (num, den) := b.scaled 0
    .ok (if b.negative then -((num / den : Nat) : Int) else (num / den : Nat))

instance : Scalar Float where
  decimal m p := Float.ofScientific m true p
  ratio := floatRatio
  lt a b := a < b
  isZero a := a == 0
  roundTo := roundFloat
  fixed := fixedFloat
  ofNumeral
    | .finite negative mantissa exponent => floatOfDecimal negative mantissa exponent
    | .infinite negative => if negative then -1.0 / 0 else 1.0 / 0
    | .nan => 0.0 / 0
  truncate := truncateFloat
  text := floatText

def roundRat (places : Nat) (x : Rat) : Rat :=
  let n : Int := roundDiv (x.num.natAbs * tenTo places) x.den
  let n := if x.num < 0 then -n else n
  (n : Rat) / (tenTo places : Nat)

instance : Scalar Rat where
  decimal m p := (m : Rat) / ((tenTo p : Nat) : Rat)
  ratio m n := (m : Rat) / (n : Rat)
  lt a b := decide (a < b)
  isZero a := decide (a = 0)
  roundTo := roundRat
  fixed places x := fixedText (decide (x < 0)) (roundDiv (x.num.natAbs * tenTo places) x.den) places
  ofNumeral
    | .finite negative mantissa exponent =>
      let n : Int := if negative then -(mantissa : Int) else mantissa
      if exponent < 0 then (n : Rat) / ((tenTo exponent.natAbs : Nat) : Rat) else (n * (tenTo exponent.natAbs : Nat) : Int)
    | .infinite negative => if negative then 0 else 1
    | .nan => 1
  truncate x := .ok (x.num.tdiv x.den)
  text x := toString x.num ++ "/" ++ toString x.den

end Demarcation
