import Demarcation.Grammar.Scanning
import Demarcation.Text.Identifier

/-!
The tokens of Python: words, numbers, marks and the parts of texts. A token knows whether it is the first one of its
line and how far that line is indented. Inside a formatted text, expressions in braces are read like any other code.
-/

namespace Demarcation.Python

open Grammar Text

inductive TokenKind where
  | word
  | number
  | mark
  | opening
  | content
  | closing
  | conversion
  | format
  | finish
deriving DecidableEq, Repr, Inhabited

abbrev Token := Grammar.Token TokenKind

structure Quotation where
  mark : Char
  triple : Bool
  raw : Bool
  formatted : Bool

/-- What encloses a place: a text, an expression in braces with the brackets open in it, or the format after it. -/
inductive Frame where
  | text (q : Quotation)
  | hole (brackets : Nat)
  | format

def skipGap : Nat → Place → Place
  | 0, p => p
  | fuel + 1, p =>
    match p.rest with
    | [] => { p with fresh := true, indent := 0 }
    | c :: cs =>
      if c = '\n' then skipGap fuel { p.skip 1 with fresh := true, indent := 0 }
      else if c = ' ' then skipGap fuel { p.skip 1 with indent := p.indent + 1 }
      else if c = '\t' then skipGap fuel { p.skip 1 with indent := p.indent + 8 }
      else if c = '\r' ∨ c = '\x0c' then skipGap fuel { p.skip 1 with indent := 0 }
      else if c = '\x0b' ∨ c = '\uFEFF' ∨ c = '\u2060' ∨ c = '\u200B' then skipGap fuel (p.skip 1)
      else if c = '#' then skipGap fuel (p.skip ((cs.takeWhile (· ≠ '\n')).length + 1))
      else if c = '\\' then
        match cs with
        | '\n' :: _ => skipGap fuel (p.skip 2)
        | '\r' :: '\n' :: _ => skipGap fuel (p.skip 3)
        | [] => skipGap fuel (p.skip 1)
        | _ => p
      else p

def marks : List String := [
  "**=", "//=", "<<=", ">>=", "...", "**", "//", "<<", ">>", "<=", ">=", "==", "!=", "<>", "->", ":=", "+=", "-=",
  "*=", "/=", "%=", "&=", "|=", "^=", "@=", "+", "-", "*", "/", "%", "@", "&", "|", "^", "~", "<", ">", "=", "(",
  ")", "[", "]", "\x7b", "\x7d", ",", ":", ".", ";"]

def looseDigits (fits : Char → Bool) (afterUnderscore : Bool) : List Char → Nat
  | '_' :: cs => if afterUnderscore then 0 else
    match cs with
    | c :: _ => if fits c then looseDigits fits true cs + 1 else 1
    | [] => 1
  | c :: cs => if fits c then looseDigits fits false cs + 1 else 0
  | [] => 0

def decimalDigits (cs : List Char) : Nat :=
  match cs with
  | c :: _ => if c.isDigit then looseDigits Char.isDigit false cs else 0
  | [] => 0

def exponent (cs : List Char) : Nat :=
  match cs with
  | 'e' :: cs | 'E' :: cs =>
    let sign := match cs with
      | '+' :: _ | '-' :: _ => 1
      | _ => 0
    match decimalDigits (cs.drop sign) with
    | 0 => 0
    | n => 1 + sign + n
  | _ => 0

def among (chars : List Char) (cs : List Char) : Nat :=
  match cs with
  | c :: _ => if chars.contains c then 1 else 0
  | [] => 0

def based (fits : Char → Bool) (cs : List Char) : Option Nat :=
  match digitRun fits cs, cs with
  | 0, '_' :: c :: rest => if fits c then some (digitRun fits (c :: rest) + 1) else none
  | 0, _ => none
  | n, _ => some n

def decimal (cs : List Char) : Option Nat :=
  let whole := decimalDigits cs
  let after := cs.drop whole
  let fraction := match after with
    | '.' :: rest => if whole = 0 ∧ decimalDigits rest = 0 then 0 else decimalDigits rest + 1
    | _ => 0
  if whole = 0 ∧ fraction = 0 then none
  else
    let n := whole + fraction + exponent (after.drop fraction)
    let tail := if n = whole then ['l', 'L', 'j', 'J'] else ['j', 'J']
    some (n + among tail (cs.drop n))

def number? (cs : List Char) : Option Nat :=
  let inBase (fits : Char → Bool) (rest : List Char) : Option Nat :=
    match based fits rest with
    | some n => some (n + 2 + among ['l', 'L'] (rest.drop n))
    | none => decimal cs
  match cs with
  | '0' :: x :: rest =>
    if x = 'x' ∨ x = 'X' then inBase isHexDigit rest
    else if x = 'o' ∨ x = 'O' then inBase isOctalDigit rest
    else if x = 'b' ∨ x = 'B' then inBase isBinaryDigit rest
    else decimal cs
  | _ => decimal cs

def isPrefixLetter (c : Char) : Bool := ['f', 'F', 'r', 'R', 'b', 'B', 'u', 'U'].contains c

def opening? (cs : List Char) : Option (Quotation × Nat) :=
  let letters := cs.takeWhile isPrefixLetter
  let quotation (mark : Char) (triple : Bool) : Quotation :=
    ⟨mark, triple, letters.any (fun c => c = 'r' ∨ c = 'R'), letters.any fun c => c = 'f' ∨ c = 'F'⟩
  match cs.drop letters.length with
  | a :: rest =>
    if a = '"' ∨ a = '\'' then
      if rest.take 2 = [a, a] then some (quotation a true, letters.length + 3)
      else some (quotation a false, letters.length + 1)
    else none
  | [] => none

def escape? : List Char → Option Nat
  | 'u' :: cs => if (cs.take 4).length = 4 ∧ (cs.take 4).all isHexDigit then some 5 else none
  | 'U' :: cs => if (cs.take 8).length = 8 ∧ (cs.take 8).all isHexDigit then some 9 else none
  | 'x' :: cs => if (cs.take 2).length = 2 ∧ (cs.take 2).all isHexDigit then some 3 else none
  | 'N' :: '\x7b' :: cs =>
    match (cs.takeWhile (· ≠ '\x7d')).length, cs.drop (cs.takeWhile (· ≠ '\x7d')).length with
    | n + 1, '\x7d' :: _ => some (n + 4)
    | _, _ => none
  | '\r' :: '\n' :: _ => some 2
  | c :: cs =>
    if isOctalDigit c then some (((c :: cs).take 3).takeWhile isOctalDigit).length
    else if ['\n', '\'', '"', 'a', 'b', 'f', 'r', 'n', 't', 'v', '\\'].contains c then some 1
    else none
  | [] => none

/-- The number of characters up to the end of a text or to an expression in braces; none for a text that has no end.
`any` tells whether the run has a character already. -/
def contentLength (q : Quotation) : Nat → Bool → List Char → Option Nat
  | 0, _, _ => none
  | fuel + 1, any, cs =>
    match cs with
    | [] => none
    | c :: rest =>
      let closes := if q.triple then cs.take 3 = [q.mark, q.mark, q.mark] else c = q.mark
      let next (n : Nat) (any : Bool) : Option Nat := (contentLength q fuel any (cs.drop n)).map (· + n)
      if closes then some 0
      else if q.formatted ∧ (c = '\x7b' ∨ c = '\x7d') then
        if rest.head? = some c then next 2 false else if c = '\x7b' then some 0 else none
      else if c = '\\' then
        if q.raw then
          match rest with
          | '\r' :: '\n' :: _ => next 3 any
          | d :: _ => if d = q.mark ∨ d = '\\' ∨ d = '\n' ∨ d = '\r' then next 2 any else next 1 any
          | [] => none
        else
          match escape? rest with
          | some n => next (n + 1) false
          | none => next 1 false
      else if c = '\n' ∧ any ∧ !q.triple then none
      else next 1 true

def textPart? (q : Quotation) (p : Place) : Option (Token × Place) := do
  match ← contentLength q (p.rest.length + 1) false p.rest with
  | 0 => if p.rest.head? = some q.mark then return p.take .closing (if q.triple then 3 else 1) else none
  | n => return p.take .content n

def codeToken? (p : Place) : Option (Token × Option Quotation × Place) :=
  let plain (t : Token × Place) : Token × Option Quotation × Place := (t.1, none, t.2)
  match p.rest with
  | [] => some (plain (p.take .finish 0))
  | c :: cs =>
    match opening? p.rest with
    | some (q, n) => let (t, p) := p.take .opening n; some (t, some q, p)
    | none =>
      if isNameStart c then some (plain (p.take .word ((cs.takeWhile isNameChar).length + 1)))
      else
        match number? p.rest with
        | some n => some (plain (p.take .number n))
        | none => (markAt marks p.rest).map fun n => plain (p.take .mark n)

def enter (t : Token) : List Frame → List Frame
  | .hole n :: frames =>
    if t.kind = .mark then
      if t.text = "(" ∨ t.text = "[" ∨ t.text = "\x7b" then .hole (n + 1) :: frames
      else if t.text = ")" ∨ t.text = "]" then .hole (n - 1) :: frames
      else if t.text = "\x7d" then if n = 0 then frames else .hole (n - 1) :: frames
      else if t.text = ":" ∧ n = 0 then .format :: .hole n :: frames
      else .hole n :: frames
    else .hole n :: frames
  | frames => frames

def tokensFrom : Nat → List Frame → Place → Option (List Token)
  | 0, _, _ => none
  | fuel + 1, .text q :: frames, p => do
    if q.formatted ∧ p.rest.head? = some '\x7b' ∧ p.rest.take 2 ≠ ['\x7b', '\x7b'] then
      let (t, p) := p.take .mark 1
      return t :: (← tokensFrom fuel (.hole 0 :: .text q :: frames) p)
    else
      let (t, p) ← textPart? q p
      return t :: (← tokensFrom fuel (if t.kind = .closing then frames else .text q :: frames) p)
  | fuel + 1, .format :: frames, p => do
    match p.rest with
    | '\x7b' :: _ =>
      let (t, p) := p.take .mark 1
      return t :: (← tokensFrom fuel (.hole 0 :: .format :: frames) p)
    | '\x7d' :: _ =>
      let (t, p) := p.take .mark 1
      return t :: (← tokensFrom fuel (frames.drop 1) p)
    | _ =>
      let n ← spanOf (fun c => c ≠ '\x7b' ∧ c ≠ '\x7d' ∧ c ≠ '\n') p.rest
      let (t, p) := p.take .format n
      return t :: (← tokensFrom fuel (.format :: frames) p)
  | fuel + 1, frames, p => do
    let p := skipGap (p.rest.length + 1) p
    let asked : Bool := match frames, p.rest with
      | .hole 0 :: _, '!' :: c :: _ => 'a' ≤ c && c ≤ 'z'
      | _, _ => false
    if asked then
      let (t, p) := p.take .conversion 2
      return t :: (← tokensFrom fuel frames p)
    else
      let (t, q, p) ← codeToken? p
      if t.kind = .finish then return [t]
      else
        match q with
        | some q => return t :: (← tokensFrom fuel (.text q :: frames) p)
        | none => return t :: (← tokensFrom fuel (enter t frames) p)

def tokens? (cs : List Char) : Option (List Token) := tokensFrom (2 * cs.length + 2) [] { rest := cs, fresh := true }

end Demarcation.Python
