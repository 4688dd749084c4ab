import Demarcation.Decimal.Numeral
import Demarcation.Language.Strict.Node
import Demarcation.Scalar
import Demarcation.Text.Quoted

namespace Demarcation.Python.Strict

open Decimal Text

/-! ### Numbers -/

def maxDigits : Nat := 4300

def integerIn (base : Nat) (cs : List Char) : Nat := cs.foldl (fun n c => n * base + (hexValue? c).getD 0) 0

/-- A number with a fraction in its shortest form. One that is too large is written as a number that is too large. -/
def realText (x : Float) : String :=
  let s := floatText x
  if s = "inf" then "1e309" else s

def imaginaryText (x : Float) : String :=
  let s := realText x
  (if s.endsWith ".0" then String.ofList (s.toList.take (s.length - 2)) else s) ++ "j"

def real? (cs : List Char) : Option Float :=
  match readNumeral? (String.ofList cs) with
  | some (.finite negative mantissa exponent) => some (floatOfDecimal negative mantissa exponent)
  | _ => none

/-- The constant that a number denotes; none for an integer with too many digits. -/
def numberConstant? (text : String) : Option Constant :=
  let cs := text.toList.filter (· ≠ '_')
  let decimal (cs : List Char) : Option Constant :=
    match cs.getLast? with
    | none => none
    | some last =>
      if last = 'j' ∨ last = 'J' then (real? cs.dropLast).map fun x => .number (imaginaryText x)
      else if cs.all Char.isDigit then
        if maxDigits < cs.length then none else some (.integer (integerIn 10 cs))
      else (real? cs).map fun x => .number (realText x)
  match cs with
  | '0' :: x :: rest =>
    if x = 'x' ∨ x = 'X' then some (.integer (integerIn 16 rest))
    else if x = 'o' ∨ x = 'O' then some (.integer (integerIn 8 rest))
    else if x = 'b' ∨ x = 'B' then some (.integer (integerIn 2 rest))
    else decimal cs
  | _ => decimal cs

/-! ### Escapes -/

def hexNumber? (width : Nat) (cs : List Char) : Option (Nat × List Char) := do
  let ds ← (cs.take width).mapM hexValue?
  if ds.length = width then return (ds.foldl (fun n d => 16 * n + d) 0, cs.drop width) else none

def octalNumber (cs : List Char) : Nat × List Char :=
  let ds := (cs.take 3).takeWhile fun c => '0' ≤ c && c ≤ '7'
  (integerIn 8 ds, cs.drop ds.length)

/-- The codes that the text after a backslash denotes, and the rest. Only texts of characters, not of bytes, know
escapes for code points and for names of characters; what a name stands for is left open. -/
def escape? (wide : Bool) : List Char → Option (List Nat × List Char)
  | [] => some ([0x5c], [])
  | c :: rest =>
    let codePoint (width : Nat) : Option (List Nat × List Char) := do
      let (n, rest) ← hexNumber? width rest
      if n < 0x110000 then return ([n], rest) else none
    match c with
    | '\n' => some ([], rest)
    | '\\' | '\'' | '"' => some ([c.toNat], rest)
    | 'a' => some ([7], rest)
    | 'b' => some ([8], rest)
    | 'f' => some ([12], rest)
    | 'n' => some ([10], rest)
    | 'r' => some ([13], rest)
    | 't' => some ([9], rest)
    | 'v' => some ([11], rest)
    | 'x' => codePoint 2
    | 'u' => if wide then codePoint 4 else some ([0x5c, c.toNat], rest)
    | 'U' => if wide then codePoint 8 else some ([0x5c, c.toNat], rest)
    | 'N' =>
      if wide then
        match rest with
        | '\x7b' :: name =>
          match name.dropWhile (· ≠ '\x7d') with
          | _ :: rest => if name.head? = some '\x7d' then none else some ([0xFFFD], rest)
          | [] => none
        | _ => none
      else some ([0x5c, c.toNat], rest)
    | _ =>
      if '0' ≤ c ∧ c ≤ '7' then
        let (n, rest) := octalNumber (c :: rest)
        some ([n], rest)
      else some ([0x5c, c.toNat], rest)

def decodeFrom (wide : Bool) : Nat → List Char → Option (List Nat)
  | 0, _ => some []
  | _, [] => some []
  | fuel + 1, c :: cs =>
    if c = '\\' then do
      let (ns, rest) ← escape? wide cs
      return ns ++ (← decodeFrom wide fuel rest)
    else do return c.toNat :: (← decodeFrom wide fuel cs)

def charOf (n : Nat) : Char := if n.isValidChar then Char.ofNat n else '\uFFFD'

def decodeText (raw : Bool) (cs : List Char) : Option (List Char) :=
  if raw then some cs else (decodeFrom true cs.length cs).map (·.map charOf)

def decodeBytes (raw : Bool) (cs : List Char) : Option (List Nat) :=
  if cs.any (128 ≤ ·.toNat) then none
  else if raw then some (cs.map (·.toNat))
  else (decodeFrom false cs.length cs).map (·.map (· % 256))

/-! ### Parts of a text -/

inductive Part where
  | text (cs : List Char)
  | value (source : List Char) (conversion : Option Char) (format : Option (List Part))

def joinTexts : List Part → List Part
  | [] => []
  | .text cs :: ps =>
    match joinTexts ps with
    | .text ds :: qs => .text (cs ++ ds) :: qs
    | qs => if cs.isEmpty then qs else .text cs :: qs
  | p :: ps => p :: joinTexts ps

def isBrace (c : Char) : Bool := c = '\x7b' || c = '\x7d'

/-- The characters up to a brace, whether that brace is doubled and stands for itself, and the rest, which begins at a
brace or after a doubled one. -/
def plainRun (raw outer : Bool) : Nat → List Char → List Char × Bool × List Char
  | 0, cs => ([], false, cs)
  | _, [] => ([], false, [])
  | fuel + 1, c :: rest =>
    let after (n : Nat) : List Char × Bool × List Char :=
      let (run, doubled, left) := plainRun raw outer fuel ((c :: rest).drop n)
      ((c :: rest).take n ++ run, doubled, left)
    if c = '\\' && !raw then
      match rest with
      | 'N' :: '\x7b' :: name => after (4 + (name.takeWhile (· ≠ '\x7d')).length)
      | d :: _ => after (if isBrace d then 1 else 2)
      | [] => after 1
    else if isBrace c then
      if outer && rest.head? = some c then ([c], true, rest.drop 1) else ([], false, c :: rest)
    else after 1

abbrev OpenText := Option (Char × Bool)

/-- The source of a value, and the rest from the mark that ends it. Backslashes and comments cannot stand in a value. -/
def valueRun : Nat → OpenText → List Char → List Char → Option (List Char × List Char)
  | 0, _, _, _ => none
  | _, _, _, [] => none
  | fuel + 1, opened, brackets, c :: rest =>
    let after (n : Nat) (opened : OpenText) (brackets : List Char) : Option (List Char × List Char) := do
      let (source, left) ← valueRun fuel opened brackets ((c :: rest).drop n)
      return ((c :: rest).take n ++ source, left)
    if c = '\\' then none
    else
      match opened with
      | some (mark, triple) =>
        if c = mark ∧ triple ∧ rest.take 2 = [c, c] then after 3 none brackets
        else if c = mark ∧ !triple then after 1 none brackets
        else after 1 opened brackets
      | none =>
        if c = '\'' ∨ c = '"' then
          if rest.take 2 = [c, c] then after 3 (some (c, true)) brackets else after 1 (some (c, false)) brackets
        else if c = '(' then after 1 none (')' :: brackets)
        else if c = '[' then after 1 none (']' :: brackets)
        else if c = '\x7b' then after 1 none ('\x7d' :: brackets)
        else if c = '#' then none
        else if brackets.isEmpty && "!=<>".toList.contains c && rest.head? = some '=' then after 2 none brackets
        else if brackets.isEmpty && "!:=\x7d".toList.contains c then some ([], c :: rest)
        else if c = ')' ∨ c = ']' ∨ c = '\x7d' then
          match brackets with
          | b :: bs => if b = c then after 1 none bs else none
          | [] => none
        else after 1 none brackets

def isBlank (c : Char) : Bool := c = ' ' || c = '\t' || c = '\n' || c = '\x0c'

def sourceMark (cs : List Char) : List Char × List Char :=
  match cs with
  | '=' :: rest =>
    let blanks := rest.takeWhile fun c => isBlank c || c = '\r' || c = '\x0b'
    ('=' :: blanks, rest.drop blanks.length)
  | _ => ([], cs)

def conversionMark? (cs : List Char) : Option (Option Char × List Char) :=
  match cs with
  | '!' :: c :: rest => if c = 's' ∨ c = 'r' ∨ c = 'a' then some (some c, rest) else none
  | '!' :: _ => none
  | _ => some (none, cs)

/-- The parts of a text with values, and the rest, which is empty or, in a format, begins at the closing brace.
Values stand in a format, but not in the format of such a value. -/
def partsFrom (raw : Bool) : Nat → Nat → List Char → Option (List Part × List Char)
  | 0, _, _ => none
  | fuel + 1, level, cs => do
    let (run, doubled, rest) := plainRun raw (level == 0) cs.length cs
    let text := Part.text (← decodeText raw run)
    if doubled then
      let (parts, rest) ← partsFrom raw fuel level rest
      return (text :: parts, rest)
    else
      match rest with
      | [] => return ([text], [])
      | c :: rest =>
        if c = '\x7d' then
          if level = 0 then none else return ([text], c :: rest)
        else if 2 ≤ level then none
        else
          let (source, rest) ← valueRun (rest.length + 1) none [] rest
          if source.all isBlank then none
          let (shown, rest) := sourceMark rest
          let (conversion, rest) ← conversionMark? rest
          let (format, rest) ← match rest with
            | ':' :: rest => (partsFrom raw fuel (level + 1) rest).map fun r => (some (joinTexts r.1), r.2)
            | _ => some (none, rest)
          match rest with
          | '\x7d' :: rest =>
            let (parts, rest) ← partsFrom raw fuel level rest
            if shown.isEmpty then return (text :: .value source conversion format :: parts, rest)
            else
              let conversion := if conversion.isNone && format.isNone then some 'r' else conversion
              return (text :: .text (source ++ shown) :: .value source conversion format :: parts, rest)
          | _ => none

/-! ### Texts -/

structure Literal where
  letters : List Char
  body : List Char

namespace Literal

def ofToken (text : String) : Literal :=
  let cs := text.toList
  let letters := cs.takeWhile fun c => c ≠ '"' && c ≠ '\''
  let rest := cs.drop letters.length
  let width := match rest with
    | a :: b :: c :: _ => if a = b ∧ b = c then 3 else 1
    | _ => 1
  ⟨letters, (rest.drop width).take (rest.length - 2 * width)⟩

def hasLetter (l : Literal) (c : Char) : Bool := l.letters.any (·.toLower = c)

def raw (l : Literal) : Bool := l.hasLetter 'r'

def isBytes (l : Literal) : Bool := l.hasLetter 'b'

def isFormatted (l : Literal) : Bool := l.hasLetter 'f'

def parts? (l : Literal) : Option (List Part) :=
  if l.isFormatted then
    match partsFrom l.raw (l.body.length + 1) 0 l.body with
    | some (parts, []) => some parts
    | _ => none
  else (decodeText l.raw l.body).map fun cs => [.text cs]

end Literal

mutual

def partNodes? (read : List Char → Option Node) : List Part → Option (List Node)
  | [] => some []
  | p :: ps => do return (← partNode? read p) :: (← partNodes? read ps)

def partNode? (read : List Char → Option Node) : Part → Option Node
  | .text cs => some (.leaf (.constant (.string (String.ofList cs) false)))
  | .value source conversion format => do
    return .node (.formatted conversion) ((← read source) :: (← formatNodes? read format))

def formatNodes? (read : List Char → Option Node) : Option (List Part) → Option (List Node)
  | none => some []
  | some ps => do return [.node .joined (← partNodes? read ps)]

end

/-- The node of texts that follow each other: bytes, or characters with values in them. Bytes and characters do not
mix. -/
def textNode? (read : List Char → Option Node) (ls : List Literal) : Option Node :=
  if ls.all (·.isBytes) then do
    return .leaf (.constant (.bytes (← ls.mapM fun l => decodeBytes l.raw l.body).flatten))
  else if ls.any (·.isBytes) then none
  else do
    let parts := joinTexts (← ls.mapM Literal.parts?).flatten
    if ls.any (·.isFormatted) then return .node .joined (← partNodes? read parts)
    else
      let cs := parts.flatMap fun p => match p with
        | .text cs => cs
        | .value _ _ _ => []
      let marked := (ls.head?.bind (·.letters.head?)) == some 'u'
      return .leaf (.constant (.string (String.ofList cs) marked))

end Demarcation.Python.Strict
