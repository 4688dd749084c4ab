import Demarcation.Grammar.Scanning
import Demarcation.Text.Identifier

namespace Demarcation.Python.Strict

open Grammar Text

inductive TokenKind where
  | word
  | number
  | string
  | mark
  | lineEnd
  | indent
  | dedent
  | finish
deriving DecidableEq, Repr, Inhabited

abbrev Token := Grammar.Token TokenKind

structure Column where
  wide : Nat
  narrow : Nat
deriving DecidableEq, Inhabited

structure Scan where
  place : Place
  blocks : List Column := []
  brackets : List Char := []
  atLineStart : Bool := true
  anyToken : Bool := false

namespace Scan

def column : List Char → Column × Nat → Column × Nat
  | ' ' :: cs, (c, n) => column cs (⟨c.wide + 1, c.narrow + 1⟩, n + 1)
  | '\t' :: cs, (c, n) => column cs (⟨(c.wide / 8 + 1) * 8, c.narrow + 1⟩, n + 1)
  | '\x0c' :: cs, (_, n) => column cs (⟨0, 0⟩, n + 1)
  | _, r => r

def closeBlocks (c : Column) : List Column → List Column × Nat
  | [] => ([], 0)
  | b :: bs =>
    if c.wide < b.wide then
      let (rest, n) := closeBlocks c bs
      (rest, n + 1)
    else (b :: bs, 0)

/-- The tokens for the change to a new indentation; none if it fits no block, or if tabs leave it open. -/
def changeBlocks (s : Scan) (c : Column) : Option (List Token × Scan) :=
  let top := s.blocks.headD ⟨0, 0⟩
  if c.wide = top.wide then if c.narrow = top.narrow then some ([], s) else none
  else if top.wide < c.wide then
    if c.narrow ≤ top.narrow ∨ 98 < s.blocks.length then none
    else some ([(s.place.take .indent 0).1], { s with blocks := c :: s.blocks })
  else
    let (blocks, n) := closeBlocks c s.blocks
    if blocks.headD ⟨0, 0⟩ = c then some (List.replicate n (s.place.take .dedent 0).1, { s with blocks }) else none

end Scan

def digits? (fits : Char → Bool) : List Char → Option Nat
  | '_' :: c :: cs => if fits c then (digits? fits (c :: cs)).map (· + 1) else none
  | ['_'] => none
  | c :: cs => if fits c then (digits? fits cs).map (· + 1) else some 0
  | [] => some 0

def startsKeyword (cs : List Char) : Bool :=
  ["and", "else", "for", "if", "in", "is", "or", "not"].any fun w => w.toList.isPrefixOf cs

def isWordPart (c : Char) : Bool := c.isAlphanum || c = '_' || 128 ≤ c.toNat

def ended (cs : List Char) (n : Nat) : Option Nat :=
  match cs.drop n with
  | c :: rest => if startsKeyword (c :: rest) || !isWordPart c then some n else none
  | [] => some n

def based (fits : Char → Bool) (cs : List Char) : Option Nat := do
  let n ← match cs with
    | '_' :: c :: rest => if fits c then (digits? fits (c :: rest)).map (· + 1) else none
    | c :: rest => if fits c then digits? fits (c :: rest) else none
    | [] => none
  match cs.drop n with
  | c :: _ => if c.isDigit then none else return n
  | [] => return n

def fraction (cs : List Char) : Option Nat :=
  match cs with
  | '.' :: c :: rest => if c.isDigit then (digits? Char.isDigit (c :: rest)).map (· + 1) else some 1
  | '.' :: _ => some 1
  | _ => some 0

def exponent (cs : List Char) : Option Nat :=
  match cs with
  | e :: rest =>
    if e = 'e' ∨ e = 'E' then
      let sign := match rest with
        | '+' :: _ | '-' :: _ => 1
        | _ => 0
      let absent := if sign = 1 then none else some 0
      match rest.drop sign with
      | d :: ds => if d.isDigit then (digits? Char.isDigit (d :: ds)).map (· + 1 + sign) else absent
      | [] => absent
    else some 0
  | [] => some 0

def decimal (cs : List Char) : Option Nat := do
  let whole ← match cs with
    | c :: _ => if c.isDigit then digits? Char.isDigit cs else some 0
    | [] => none
  let f ← fraction (cs.drop whole)
  let e ← exponent (cs.drop (whole + f))
  let n := whole + f + e
  let imaginary := match cs.drop n with
    | c :: _ => c = 'j' || c = 'J'
    | [] => false
  if n = whole && !imaginary && cs.head? = some '0' && (cs.take whole).any fun c => c ≠ '0' && c ≠ '_' then none
  else ended cs (if imaginary then n + 1 else n)

def number? (cs : List Char) : Option Nat :=
  match cs with
  | '0' :: x :: rest =>
    let inBase (fits : Char → Bool) : Option Nat := do ended cs ((← based fits rest) + 2)
    if x = 'x' ∨ x = 'X' then inBase isHexDigit
    else if x = 'o' ∨ x = 'O' then inBase isOctalDigit
    else if x = 'b' ∨ x = 'B' then inBase isBinaryDigit
    else decimal cs
  | _ => decimal cs

def prefixLength (cs : List Char) : Option Nat :=
  let letters := ((cs.take 3).takeWhile fun c => c ≠ '"' && c ≠ '\'').map Char.toLower
  if letters.length ≤ 2 && letters.length < cs.length &&
      [[], ['b'], ['u'], ['r'], ['f'], ['b', 'r'], ['r', 'b'], ['f', 'r'], ['r', 'f']].contains letters then
    some letters.length
  else none

def textRest (mark : Char) (triple : Bool) : Nat → List Char → Option Nat
  | 0, _ => none
  | fuel + 1, cs =>
    match cs with
    | [] => none
    | c :: rest =>
      if c = '\\' then
        match rest with
        | _ :: rest => (textRest mark triple fuel rest).map (· + 2)
        | [] => none
      else if c = '\n' ∧ !triple then none
      else if triple then
        if cs.take 3 = [mark, mark, mark] then some 3 else (textRest mark triple fuel rest).map (· + 1)
      else if c = mark then some 1
      else (textRest mark triple fuel rest).map (· + 1)

def text? (cs : List Char) : Option Nat := do
  let n ← prefixLength cs
  match cs.drop n with
  | mark :: rest =>
    if rest.take 2 = [mark, mark] then return n + 3 + (← textRest mark true (rest.length + 1) (rest.drop 2))
    else return n + 1 + (← textRest mark false (rest.length + 1) rest)
  | [] => none

def marks : List String := [
  "**=", "//=", ">>=", "<<=", "...", "!=", "%=", "&=", "**", "*=", "+=", "-=", "->", "//", "/=", ":=", "<<", "<=",
  "==", ">=", ">>", "@=", "^=", "|=", "%", "&", "(", ")", "*", "+", ",", "-", ".", "/", ":", ";", "<", "=", ">", "@",
  "[", "]", "^", "\x7b", "|", "\x7d", "~"]

def bracketsAfter (mark : String) (opened : List Char) : Option (List Char) :=
  match mark with
  | "(" => if opened.length < 200 then some (')' :: opened) else none
  | "[" => if opened.length < 200 then some (']' :: opened) else none
  | "\x7b" => if opened.length < 200 then some ('\x7d' :: opened) else none
  | ")" | "]" | "\x7d" =>
    match opened with
    | c :: rest => if mark = String.singleton c then some rest else none
    | [] => none
  | _ => some opened

def lineToken? (s : Scan) : Option (Token × Scan) := do
  let cs := s.place.rest
  let after (t : Token × Place) : Token × Scan := (t.1, { s with place := t.2, anyToken := true })
  match cs with
  | [] => none
  | c :: rest =>
    if (text? cs).isSome then return after (s.place.take .string (← text? cs))
    else if (prefixLength cs).isSome then none
    else if c.isAlpha || c = '_' || 128 ≤ c.toNat then
      let word := c :: rest.takeWhile isWordPart
      if isNameStart c && word.all isNameChar then return after (s.place.take .word word.length) else none
    else if c.isDigit || (c = '.' && rest.head?.any Char.isDigit) then
      return after (s.place.take .number (← number? cs))
    else
      let (t, s) := after (s.place.take .mark (← markAt marks cs))
      return (t, { s with brackets := ← bracketsAfter t.text s.brackets })

def tokensFrom : Nat → Scan → Option (List Token)
  | 0, _ => none
  | fuel + 1, s =>
    if s.atLineStart && s.brackets.isEmpty then
      let (c, n) := Scan.column s.place.rest (⟨0, 0⟩, 0)
      let s := { s with place := s.place.skip n, atLineStart := false, anyToken := false }
      match s.place.rest with
      | '#' :: _ | '\n' :: _ | [] => tokensFrom fuel s
      | _ => do
        let (ts, s) ← s.changeBlocks c
        return ts ++ (← tokensFrom fuel s)
    else
      match s.place.rest with
      | [] =>
        if s.brackets.isEmpty then
          some (List.replicate s.blocks.length (s.place.take .dedent 0).1 ++ [(s.place.take .finish 0).1])
        else none
      | '\n' :: _ =>
        let (t, p) := s.place.take .lineEnd 1
        let next := { s with place := p, atLineStart := s.brackets.isEmpty }
        if s.brackets.isEmpty && s.anyToken then do return t :: (← tokensFrom fuel next) else tokensFrom fuel next
      | '#' :: cs =>
        tokensFrom fuel { s with place := s.place.skip ((cs.takeWhile (· ≠ '\n')).length + 1) }
      | '\\' :: '\n' :: cs => if cs.isEmpty then none else tokensFrom fuel { s with place := s.place.skip 2 }
      | c :: _ =>
        if c = ' ' ∨ c = '\t' ∨ c = '\x0c' then tokensFrom fuel { s with place := s.place.skip 1 }
        else do
          let (t, s) ← lineToken? s
          return t :: (← tokensFrom fuel s)

def withLineEnds (cs : List Char) : List Char :=
  match cs.getLast? with
  | some '\n' | none => cs
  | some _ => cs ++ ['\n']

def tokens? (cs : List Char) : Option (List Token) :=
  tokensFrom (2 * cs.length + 8) { place := { rest := withLineEnds cs } }

end Demarcation.Python.Strict
