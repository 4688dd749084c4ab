import Demarcation.Document
import Demarcation.Text.Split

namespace Demarcation.Document.Toml

open Text Decimal

variable {R : Type} [Scalar R]

inductive Kind where
  | bool
  | text
  | list
  | table
  | int
  | number
  | date
  | time
deriving DecidableEq

def require (b : Bool) : Except Fault Unit := if b then .ok () else .error .badToml

/-- The parts of a text between its quotation marks, without the first mark: whether the text ends where it should. -/
def checkQuotes (long : Bool) : Bool → Nat → List (List Char) → Bool
  | _, _, [] => true
  | closed, count, piece :: pieces =>
    if piece.isEmpty then
      if long then checkQuotes long closed (count + 1) pieces else checkQuotes long true count pieces
    else if endsEscaped piece then checkQuotes long closed count pieces
    else if closed then false
    else if !long || 1 < count then checkQuotes long true count pieces
    else checkQuotes long false 0 pieces

def escapes : List (Char × Char) := [
  ('0', '\x00'), ('b', '\x08'), ('f', '\x0c'), ('n', '\n'), ('r', '\r'), ('t', '\t'), ('"', '"')]

def checkEscapes : Bool → List (List Char) → Bool
  | _, [] => true
  | backslash, [] :: pieces => checkEscapes (!backslash) pieces
  | backslash, (c :: _) :: pieces =>
    (backslash || (escapes.lookup c).isSome || c = 'u' || c = 'U') && checkEscapes false pieces

def isHexDigit (c : Char) : Bool := c.isDigit || ('a' ≤ c && c ≤ 'f')

def hexValue (ds : List Char) : Nat :=
  ds.foldl (fun n c => 16 * n + (if c.isDigit then c.toNat - 48 else c.toNat - 87)) 0

def codePoint (width : Nat) (cs : List Char) : Except Fault (Char × List Char) := do
  let ds := (cs.take width).map Char.toLower
  require (ds.all isHexDigit)
  match ds with
  | [] => .error .noSuchPosition
  | a :: ds' =>
    if a = 'd' then
      match ds' with
      | [] => .error .noSuchPosition
      | b :: _ => require ('0' ≤ b && b ≤ '7')
    let n := hexValue ds
    require (n < 0x110000)
    return (if n.isValidChar then Char.ofNat n else '\uFFFD', cs.drop width)

def splitEscapes (mark : Char) : List Char → List (List Char)
  | [] => [[]]
  | [c] => [[c]]
  | a :: b :: cs =>
    if a = '\\' ∧ b = mark then [] :: splitEscapes mark cs
    else
      match splitEscapes mark (b :: cs) with
      | [] => [[a]]
      | piece :: pieces => (a :: piece) :: pieces

/-- Puts characters in place of the escapes between the pieces of a text. An escape after an odd number of
backslashes is left as it is. -/
def fillEscapes (mark : Char) (width : Nat) : Bool → List (List Char) → Except Fault (List Char)
  | _, [] => .ok []
  | skip, piece :: pieces =>
    if skip then do return '\\' :: mark :: piece ++ (← fillEscapes mark width (endsEscaped piece) pieces)
    else do
      let (x, rest) ← codePoint width piece
      return x :: rest ++ (← fillEscapes mark width false pieces)

def unescapeCodePoints (mark : Char) (width : Nat) (v : List Char) : Except Fault (List Char) :=
  match splitEscapes mark v with
  | [] => .ok []
  | piece :: pieces => do return piece ++ (← fillEscapes mark width (endsEscaped piece) pieces)

def unescape : List Char → Except Fault (List Char)
  | [] => .ok []
  | ['\\'] => .ok ['\\']
  | '\\' :: c :: cs =>
    match escapes.lookup c with
    | some x => do return x :: (← unescape cs)
    | none =>
      if c = '\\' then do return '\\' :: (← unescape cs)
      else if c = 'u' ∨ c = 'U' then do return '\\' :: c :: (← unescape cs)
      else .error .badToml
  | c :: cs => do return c :: (← unescape cs)

def readText (quote : Char) (v : List Char) : Except Fault String := do
  require (match splitAll quote (v.drop 1) with
    | [] :: [] :: pieces => checkQuotes true false 0 pieces
    | pieces => checkQuotes false false 0 pieces)
  let v ← if quote = '"' then do
      require (checkEscapes false ((splitAll '\\' v).drop 1))
      let v ← unescapeCodePoints 'u' 4 v
      let v ← unescapeCodePoints 'U' 8 v
      unescape v
    else pure v
  let v := match v with
    | _ :: b :: rest => if b = quote && rest.head?.all (· = b) then rest.take (rest.length - 2) else v
    | _ => v
  return String.ofList (inside v)

def basedValue? (base : Nat) (ds : List Char) : Option Nat :=
  if ds.isEmpty then none
  else ds.foldlM (fun n c =>
    let c := c.toLower
    let d := if c.isDigit then c.toNat - 48 else if c.isLower then c.toNat - 87 else base
    if d < base then some (base * n + d) else none) 0

def readInteger? (v : List Char) : Option Int :=
  let (negative, ds) := readSign (stripChars v)
  let signed (n : Nat) : Int := if negative then -(n : Int) else n
  match ds with
  | '0' :: x :: rest =>
    let base := match x.toLower with
      | 'x' => 16
      | 'o' => 8
      | 'b' => 2
      | _ => 10
    if base = 10 then (readInt? (String.ofList v)).filter (· = 0) else (basedValue? base rest).map signed
  | _ => readInt? (String.ofList v)

/-- A number. One with a point or an exponent has a digit in front and on each side of the point. -/
def readNumber (v : List Char) : Except Fault (Document R × Kind) := do
  let (negative, v) := readSign v
  let v := v.filter (· ≠ '_')
  let word := v.map Char.toLower
  let numeral : Except Fault R :=
    match readNumeral? (String.ofList v) with
    | some n => .ok (Scalar.ofNumeral n)
    | none => .error .badToml
  let signed (x : R) : R := if negative then Scalar.ofNat 0 - x else x
  if v.contains '.' ∨ (!v.contains 'x' ∧ word.contains 'e') then
    require (!(v.contains '.' && v.dropWhile (· ≠ '.') == ['.']))
    require (v.head?.any Char.isDigit)
    return (.number (signed (← numeral)), .number)
  else if word = ['i', 'n', 'f'] ∨ word = ['n', 'a', 'n'] then return (.number (signed (← numeral)), .number)
  else
    match readInteger? v with
    | some i => return (.int (if negative then -i else i), .int)
    | none => .error .badToml

def part? (v : List Char) (start length : Nat) (low high : Nat) : Option Nat := do
  let i ← readInt? (String.ofList ((v.drop start).take length))
  if (low : Int) ≤ i ∧ i ≤ (high : Int) then some i.toNat else none

def timeParts? : List Char → Option (Nat × Nat × Nat × List Char)
  | a :: b :: ':' :: c :: d :: ':' :: e :: f :: rest => do
    guard ([a, b, c, d, e, f].all Char.isDigit)
    let two (x y : Char) : Nat := 10 * (x.toNat - 48) + (y.toNat - 48)
    let digits := match rest with
      | '.' :: ds => (ds.take 6).takeWhile Char.isDigit
      | _ => []
    return (two a b, two c d, two e f, if digits.length < 3 then [] else digits)
  | _ => none

/-- A time of day. The digits after its point, three to six, are taken as a whole number of millionths. -/
def readTime (hour minute second : Nat) (digits : List Char) : Except Fault Moment := do
  require (hour < 24 && minute < 60 && second < 60)
  let microsecond := digits.foldl (fun n c => 10 * n + (c.toNat - 48)) 0
  return .time { hour, minute, second, microsecond }

def daysIn (year month : Nat) : Nat :=
  if month = 2 then (if year % 4 = 0 ∧ (year % 100 ≠ 0 ∨ year % 400 = 0) then 29 else 28)
  else if month = 4 ∨ month = 6 ∨ month = 9 ∨ month = 11 then 30
  else 31

def offset? (v : List Char) : Option Int := do
  if v = ['Z'] then return 0
  let hours ← readInt? (String.ofList ((v.drop 1).take 2))
  let minutes ← readInt? (String.ofList ((v.drop 4).take 2))
  let total := 60 * hours + minutes
  return if v.head?.any (· = '-') then -total else total

def splitFraction (v : List Char) : List Char × Option (List Char) :=
  if v.getLast?.any (fun c => c.toUpper = 'Z') then (v.dropLast, some ['Z'])
  else
    let sign := if v.contains '+' then '+' else '-'
    match v.dropWhile (· ≠ sign) with
    | [] => (v, none)
    | offset => (v.takeWhile (· ≠ sign), some offset)

def secondsTail? : List Char → Option (Int × Option Int)
  | [] => some (0, none)
  | '.' :: v => do
    let (digits, offset) := splitFraction v
    let minutes ← match offset with
      | some offset => (offset? offset).map some
      | none => some none
    let n ← readInt? (String.ofList digits)
    return ((n * 1000000).tdiv (Nat.pow 10 digits.length), minutes)
  | v => do return (0, some (← offset? v))

/-- A date, perhaps with a time. If the fraction or the offset is malformed, both are left out. -/
def readDate? (v : List Char) : Option Moment := do
  guard ((v.drop 1).contains '-')
  let year ← part? v 0 4 1 9999
  let month ← part? v 5 2 1 12
  let day ← part? v 8 2 1 (daysIn year month)
  if v.length = 10 then return .date { year, month, day }
  let hour ← part? v 11 2 0 23
  let minute ← part? v 14 2 0 59
  let second ← part? v 17 2 0 59
  let (fraction, offset) := (secondsTail? (v.drop 19)).getD (0, none)
  guard (0 ≤ fraction ∧ fraction < 1000000)
  return .dateTime { year, month, day } { hour, minute, second, microsecond := fraction.toNat } offset

def readPlain (strict : Bool) (v : List Char) : Except Fault (Document R × Kind) :=
  match timeParts? v with
  | some (hour, minute, second, digits) => do return (.moment (← readTime hour minute second digits), .time)
  | none =>
    match readDate? v with
    | some m => .ok (.moment m, .date)
    | none => if strict then readNumber v else .error .badToml

end Demarcation.Document.Toml
