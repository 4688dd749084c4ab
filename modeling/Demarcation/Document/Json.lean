import Demarcation.Document

/-!
Documents as JSON text. The reader accepts the words `NaN`, `Infinity` and `-Infinity` as numbers, and the last of
several equal keys counts. The writer leaves nothing but printable ASCII characters in texts.
-/

namespace Demarcation.Document.Json

open Text Decimal

variable {R : Type} [Scalar R]

def dropBlanks (cs : List Char) : List Char :=
  cs.dropWhile fun c => c = ' ' ∨ c = '\n' ∨ c = '\t' ∨ c = '\r'

structure Limits where
  depth : Option Nat := none
  digits : Option Nat := some 4300
  replaces : Bool := true

def Limits.inside (limits : Limits) : Except Fault Limits :=
  match limits.depth with
  | none => .ok limits
  | some 0 => .error .tooDeep
  | some (depth + 1) => .ok { limits with depth := some depth }

def unit? : List Char → Option (Nat × List Char)
  | a :: b :: c :: d :: cs => do
    return (((← hexValue? a) * 16 + (← hexValue? b)) * 256 + (← hexValue? c) * 16 + (← hexValue? d), cs)
  | _ => none

/-- The character that one code unit, or a pair of surrogates, denotes; half of a pair denotes none. -/
def codePoint? (cs : List Char) : Option (Option Char × List Char) := do
  let (high, rest) ← unit? cs
  if 0xD800 ≤ high ∧ high < 0xDC00 then
    match rest with
    | '\\' :: 'u' :: rest' =>
      let (low, rest') ← unit? rest'
      if 0xDC00 ≤ low ∧ low < 0xE000 then
        return (some (Char.ofNat (0x10000 + (high - 0xD800) * 0x400 + (low - 0xDC00))), rest')
      else return (none, rest)
    | _ => return (none, rest)
  else if 0xDC00 ≤ high ∧ high < 0xE000 then return (none, rest)
  else return (some (Char.ofNat high), rest)

def unescape? : Char → Option Char
  | '"' => some '"'
  | '\\' => some '\\'
  | '/' => some '/'
  | 'b' => some '\x08'
  | 'f' => some '\x0c'
  | 'n' => some '\n'
  | 'r' => some '\r'
  | 't' => some '\t'
  | _ => none

def wellFormed {α : Type} : Option α → Except Fault α
  | some a => .ok a
  | none => .error .badJson

def readString (limits : Limits) : Nat → List Char → List Char → Except Fault (String × List Char)
  | 0, _, _ => .error .badJson
  | _, _, [] => .error .badJson
  | _, done, '"' :: cs => .ok (String.ofList done.reverse, cs)
  | fuel + 1, done, '\\' :: 'u' :: cs => do
    match ← wellFormed (codePoint? cs) with
    | (some c, cs) => readString limits fuel (c :: done) cs
    | (none, cs) => if limits.replaces then readString limits fuel ('\uFFFD' :: done) cs else .error .loneSurrogate
  | fuel + 1, done, '\\' :: c :: cs => do readString limits fuel ((← wellFormed (unescape? c)) :: done) cs
  | fuel + 1, done, c :: cs =>
    if c.toNat < 32 ∨ c = '\\' then .error .badJson else readString limits fuel (c :: done) cs

def digits (cs : List Char) : List Char × List Char := (cs.takeWhile Char.isDigit, cs.dropWhile Char.isDigit)

def natural (ds : List Char) : Nat := ds.foldl (fun n c => 10 * n + (c.toNat - 48)) 0

def fraction (cs : List Char) : List Char × List Char :=
  match cs with
  | '.' :: rest => let (ds, rest) := digits rest; if ds.isEmpty then ([], cs) else (ds, rest)
  | _ => ([], cs)

def exponent? (cs : List Char) : Option Int × List Char :=
  match cs with
  | c :: rest =>
    if c = 'e' ∨ c = 'E' then
      let (negative, rest) := readSign rest
      let (ds, rest) := digits rest
      if ds.isEmpty then (none, cs) else (some (if negative then -(natural ds : Int) else natural ds), rest)
    else (none, cs)
  | [] => (none, [])

def minus (cs : List Char) : Bool × List Char :=
  match cs with
  | '-' :: rest => (true, rest)
  | _ => (false, cs)

def whole (cs : List Char) : List Char × List Char :=
  match cs with
  | '0' :: rest => (['0'], rest)
  | _ => digits cs

def readNumber (limits : Limits) (cs : List Char) : Except Fault (Document R × List Char) :=
  let (negative, cs) := minus cs
  let (whole, cs) := whole cs
  if whole.isEmpty then .error .badJson
  else
    let (places, cs) := fraction cs
    let (exponent, cs) := exponent? cs
    if places.isEmpty ∧ exponent.isNone then
      match limits.digits.filter (· < whole.length) with
      | some limit => .error (.tooManyDigits limit whole.length)
      | none =>
        let n : Int := natural whole
        .ok (.int (if negative then -n else n), cs)
    else
      let numeral := Numeral.finite negative (natural (whole ++ places)) (exponent.getD 0 - places.length)
      .ok (.number (Scalar.ofNumeral numeral), cs)

def words : List (String × Document R) := [
  ("null", .null), ("true", .bool true), ("false", .bool false), ("NaN", .number (Scalar.ofNumeral .nan)),
  ("Infinity", .number (Scalar.ofNumeral (.infinite false))),
  ("-Infinity", .number (Scalar.ofNumeral (.infinite true)))]

def dropWord? (word : String) (cs : List Char) : Option (List Char) :=
  if word.toList.isPrefixOf cs then some (cs.drop word.length) else none

def readSimple (limits : Limits) (cs : List Char) : Except Fault (Document R × List Char) :=
  match words.findSome? fun w => (dropWord? w.1 cs).map (w.2, ·) with
  | some read => .ok read
  | none => readNumber limits cs

mutual

def readValue (limits : Limits) : Nat → List Char → Except Fault (Document R × List Char)
  | 0, _ => .error .badJson
  | fuel + 1, cs =>
    match cs with
    | '"' :: cs => do
      let (s, cs) ← readString limits (cs.length + 1) [] cs
      return (.text s, cs)
    | '[' :: cs => do
      let limits ← limits.inside
      match dropBlanks cs with
      | ']' :: cs => return (.list [], cs)
      | cs =>
        let (ds, cs) ← readElements limits fuel [] cs
        return (.list ds, cs)
    | '\x7b' :: cs => do
      let limits ← limits.inside
      match dropBlanks cs with
      | '\x7d' :: cs => return (.table [], cs)
      | cs =>
        let (es, cs) ← readEntries limits fuel [] cs
        return (.table es, cs)
    | cs => readSimple limits cs

def readElements (limits : Limits) :
    Nat → List (Document R) → List Char → Except Fault (List (Document R) × List Char)
  | 0, _, _ => .error .badJson
  | fuel + 1, done, cs => do
    let (d, cs) ← readValue limits fuel cs
    match dropBlanks cs with
    | ',' :: cs => readElements limits fuel (d :: done) (dropBlanks cs)
    | ']' :: cs => return ((d :: done).reverse, cs)
    | _ => .error .badJson

def readEntries (limits : Limits) :
    Nat → List (String × Document R) → List Char → Except Fault (List (String × Document R) × List Char)
  | 0, _, _ => .error .badJson
  | fuel + 1, done, cs => do
    let '"' :: cs := cs | .error .badJson
    let (key, cs) ← readString limits (cs.length + 1) [] cs
    let ':' :: cs := dropBlanks cs | .error .badJson
    let (d, cs) ← readValue limits fuel (dropBlanks cs)
    match dropBlanks cs with
    | ',' :: cs => readEntries limits fuel ((key, d) :: done) (dropBlanks cs)
    | '\x7d' :: cs => return (putAll [] ((key, d) :: done).reverse, cs)
    | _ => .error .badJson

end

def read (s : String) (limits : Limits := {}) : Except Fault (Document R) := do
  let cs := dropBlanks s.toList
  let (d, rest) ← readValue limits (2 * cs.length + 2) cs
  if (dropBlanks rest).isEmpty then return d else throw .badJson

def writeUnit (n : Nat) : List Char := '\\' :: 'u' :: hexDigits 4 n

def writeChar (c : Char) : List Char :=
  if c = '"' ∨ c = '\\' then ['\\', c]
  else if c = '\n' then ['\\', 'n']
  else if c = '\r' then ['\\', 'r']
  else if c = '\t' then ['\\', 't']
  else if c = '\x08' then ['\\', 'b']
  else if c = '\x0c' then ['\\', 'f']
  else if 32 ≤ c.toNat ∧ c.toNat < 127 then [c]
  else if c.toNat < 0x10000 then writeUnit c.toNat
  else
    let n := c.toNat - 0x10000
    writeUnit (0xD800 + n / 0x400) ++ writeUnit (0xDC00 + n % 0x400)

def writeString (s : String) : String := String.ofList ('"' :: s.toList.flatMap writeChar ++ ['"'])

def writeNumber (x : R) : String :=
  match Scalar.text x with
  | "nan" => "NaN"
  | "inf" => "Infinity"
  | "-inf" => "-Infinity"
  | shown => shown

def lineBreak (lines : Bool) (depth : Nat) : String :=
  if lines then "\n" ++ String.ofList (List.replicate (2 * depth) ' ') else ""

def enclose (lines : Bool) (depth : Nat) (opening closing : String) (items : List String) : String :=
  if items.isEmpty then opening ++ closing
  else
    let separator := (if lines then "," else ", ") ++ lineBreak lines (depth + 1)
    opening ++ lineBreak lines (depth + 1) ++ separator.intercalate items ++ lineBreak lines depth ++ closing

mutual

def writeAt (lines : Bool) (depth : Nat) : Document R → String
  | .null => "null"
  | .bool b => if b then "true" else "false"
  | .int i => toString i
  | .number x => writeNumber x
  | .text s => writeString s
  | .moment m => writeString m.shown
  | .list items => enclose lines depth "[" "]" (writeItems lines (depth + 1) items)
  | .table entries => enclose lines depth "\x7b" "\x7d" (writeEntries lines (depth + 1) entries)

def writeItems (lines : Bool) (depth : Nat) : List (Document R) → List String
  | [] => []
  | d :: ds => writeAt lines depth d :: writeItems lines depth ds

def writeEntries (lines : Bool) (depth : Nat) : List (String × Document R) → List String
  | [] => []
  | (k, d) :: es => (writeString k ++ ": " ++ writeAt lines depth d) :: writeEntries lines depth es

end

def write (d : Document R) : String := writeAt true 0 d

def writeLine (d : Document R) : String := writeAt false 0 d

end Demarcation.Document.Json
