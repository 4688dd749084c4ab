import Demarcation.Decimal.Rounding

namespace Demarcation.Decimal

structure Binary where
  negative : Bool
  mantissa : Nat
  exponent : Int

def Binary.ofFloat? (x : Float) : Option Binary :=
  let bits := x.toBits.toNat
  let negative := bits / twoTo 63 == 1
  let field : Nat := bits / twoTo 52 % twoTo 11
  let fraction := bits % twoTo 52
  if field = 2047 then none
  else if field = 0 then some ⟨negative, fraction, -1074⟩
  else some ⟨negative, twoTo 52 + fraction, (field : Int) - 1075⟩

def Binary.scaled (b : Binary) (places : Nat) : Nat × Nat :=
  if 0 ≤ b.exponent then (b.mantissa * twoTo b.exponent.toNat * tenTo places, 1)
  else (b.mantissa * tenTo places, twoTo (-b.exponent).toNat)

def Binary.units (b : Binary) (places : Nat) : Nat :=
  let (num, den) := b.scaled places
  roundDiv num den

def roundFloat (places : Nat) (x : Float) : Float :=
  match Binary.ofFloat? x with
  | none => x
  | some b =>
    let y := Float.ofScientific (b.units places) true places
    if b.negative then -y else y

def fixedFloat (places : Nat) (x : Float) : String :=
  match Binary.ofFloat? x with
  | none => if x < 0 then "-inf" else if x > 0 then "inf" else "nan"
  | some b => fixedText b.negative (b.units places) places

structure Scientific where
  digits : Nat
  exponent : Int
deriving DecidableEq, Repr

def Scientific.strip : Nat → Scientific → Scientific
  | 0, d => d
  | fuel + 1, d => if d.digits ≠ 0 ∧ d.digits % 10 = 0 then strip fuel ⟨d.digits / 10, d.exponent + 1⟩ else d

def leadingExponent (num den : Nat) : Int :=
  if den ≤ num then ((Nat.toDigits 10 (num / den)).length : Int) - 1
  else
    let rec go : Nat → Nat → Int
      | 0, j => -(j : Int)
      | fuel + 1, j => if den ≤ num * tenTo j then -(j : Int) else go fuel (j + 1)
    go 400 1

/-- A point of the grid of multiples of `10 ^ p` that reads back as the number, if one of the two neighbours of the
number on that grid does; of two, the nearer. `low` and `high` are four times the number less and plus half the
distance to its neighbours, `mid` is four times the number, all over `den`. -/
def gridPoint? (inclusive : Bool) (low mid high den : Nat) (p : Int) : Option Scientific :=
  let up (n : Nat) : Nat := if 0 ≤ p then n else n * tenTo (-p).toNat
  let unit : Nat := if 0 ≤ p then 4 * den * tenTo p.toNat else 4 * den
  let inside (n : Nat) : Bool :=
    if inclusive then up low ≤ n * unit && n * unit ≤ up high else up low < n * unit && n * unit < up high
  let below := up mid / unit
  let above := below + 1
  let distanceBelow := up mid - below * unit
  let distanceAbove := above * unit - up mid
  let lower : Bool :=
    distanceBelow < distanceAbove || (distanceBelow == distanceAbove && below % 2 == 0)
  if inside below && (lower || !inside above) && below != 0 then some ⟨below, p⟩
  else if inside above then some ⟨above, p⟩
  else none

def Binary.shortest (b : Binary) : Scientific :=
  let (num, den) : Nat × Nat :=
    if 0 ≤ b.exponent then (b.mantissa * twoTo b.exponent.toNat, 1) else (b.mantissa, twoTo (-b.exponent).toNat)
  let ulp : Nat := if 0 ≤ b.exponent then twoTo b.exponent.toNat else 1
  let boundary := b.mantissa == twoTo 52 && b.exponent != -1074
  let low := 4 * num - (if boundary then ulp else 2 * ulp)
  let high := 4 * num + 2 * ulp
  let lead := leadingExponent num den
  let inclusive := b.mantissa % 2 == 0
  let rec go : Nat → Nat → Scientific
    | 0, k => ⟨roundDiv (num * tenTo (k - 1)) den, -((k : Int) - 1)⟩
    | fuel + 1, k =>
      match gridPoint? inclusive low (4 * num) high den (lead - (k - 1 : Nat)) with
      | some d => d
      | none => go fuel (k + 1)
  (go 17 1).strip 400

/-- Positional notation for numbers from a ten-thousandth up to ten to the sixteenth, with at least one digit on each
side of the point; outside that range one digit before the point and a signed exponent of at least two digits. -/
def Scientific.text (d : Scientific) : List Char :=
  let ds := Nat.toDigits 10 d.digits
  let point : Int := ds.length + d.exponent
  if -4 < point ∧ point ≤ 16 then
    if point ≤ 0 then '0' :: '.' :: (List.replicate (-point).toNat '0' ++ ds)
    else if (ds.length : Int) ≤ point then ds ++ List.replicate (point.toNat - ds.length) '0' ++ ['.', '0']
    else ds.take point.toNat ++ '.' :: ds.drop point.toNat
  else
    let e := point - 1
    let mark := if e < 0 then ['e', '-'] else ['e', '+']
    let head := match ds with
      | [] => []
      | [c] => [c]
      | c :: rest => c :: '.' :: rest
    head ++ mark ++ Decimal.digits 2 e.natAbs

def floatText (x : Float) : String :=
  match Binary.ofFloat? x with
  | none => if x < 0 then "-inf" else if x > 0 then "inf" else "nan"
  | some b =>
    let text := if b.mantissa = 0 then ['0', '.', '0'] else b.shortest.text
    String.ofList (if b.negative then '-' :: text else text)

end Demarcation.Decimal
