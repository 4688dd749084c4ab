import Demarcation.Decimal.Rounding
import Demarcation.Text.Blank

namespace Demarcation.Decimal

open Text

inductive Numeral where
  | finite (negative : Bool) (mantissa : Nat) (exponent : Int)
  | infinite (negative : Bool)
  | nan
deriving DecidableEq, Repr

/-- The value of a run of digits that are separated by single underscores at most, the number of the digits, and
what follows. `value` and `count` are those of the digits read before. -/
def readDigits (value count : Nat) : List Char → Nat × Nat × List Char
  | [] => (value, count, [])
  | '_' :: c :: cs =>
    match digitValue? c with
    | some d => if count = 0 then (value, count, '_' :: c :: cs) else readDigits (10 * value + d) (count + 1) cs
    | none => (value, count, '_' :: c :: cs)
  | c :: cs =>
    match digitValue? c with
    | some d => readDigits (10 * value + d) (count + 1) cs
    | none => (value, count, c :: cs)

def readSign : List Char → Bool × List Char
  | '-' :: cs => (true, cs)
  | '+' :: cs => (false, cs)
  | cs => (false, cs)

def readInt? (s : String) : Option Int :=
  let (negative, cs) := readSign (stripChars s.toList)
  match readDigits 0 0 cs with
  | (_, 0, _) => none
  | (n, _, []) => some (if negative then -n else n)
  | _ => none

def readExponent? : List Char → Option Int
  | [] => some 0
  | c :: cs =>
    if c = 'e' ∨ c = 'E' then
      let (negative, cs) := readSign cs
      match readDigits 0 0 cs with
      | (_, 0, _) => none
      | (n, _, []) => some (if negative then -n else n)
      | _ => none
    else none

def readNumeral? (s : String) : Option Numeral :=
  let (negative, cs) := readSign (stripChars s.toList)
  let word := String.ofList (cs.map Char.toLower)
  if word = "inf" ∨ word = "infinity" then some (.infinite negative)
  else if word = "nan" then some .nan
  else
    let (whole, count, rest) := readDigits 0 0 cs
    match rest with
    | '.' :: rest =>
      let (mantissa, places, rest) :=
        match rest with
        | '_' :: _ => (whole, 0, rest)
        | _ =>
          let (part, places, rest) := readDigits 0 0 rest
          (whole * tenTo places + part, places, rest)
      if count + places = 0 then none
      else (readExponent? rest).map fun e => .finite negative mantissa (e - places)
    | rest =>
      if count = 0 then none else (readExponent? rest).map fun e => .finite negative whole e

end Demarcation.Decimal
