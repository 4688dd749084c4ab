import Demarcation.Grammar.Scanning
import Demarcation.Text.Identifier
import Demarcation.Text.WordChar

namespace Demarcation.Go

open Grammar Text

inductive TokenKind where
  | word
  | literal
  | text
  | mark
  | finish
deriving DecidableEq, Repr, Inhabited

abbrev Token := Grammar.Token TokenKind

def isSpace (c : Char) : Bool := c = ' ' || ('\t' ≤ c && c ≤ '\r')

def skipGap : Nat → Place → Place
  | 0, p => p
  | fuel + 1, p =>
    match p.rest with
    | '/' :: '/' :: cs => skipGap fuel (p.skip ((cs.takeWhile (· ≠ '\n')).length + 2))
    | '/' :: '*' :: cs =>
      match through ['*', '/'] cs with
      | some n => skipGap fuel (p.skip (n + 2))
      | none => p
    | c :: _ => if isSpace c then skipGap fuel { p.skip 1 with fresh := p.fresh || c = '\n' } else p
    | [] => p

def marks : List String := [
  "<<=", ">>=", "&^=", "...", "&&", "||", "<-", "++", "--", "==", "!=", "<=", ">=", ":=", "+=", "-=", "*=", "/=",
  "%=", "&=", "|=", "^=", "<<", ">>", "&^", "+", "-", "*", "/", "%", "&", "|", "^", "<", ">", "=", "!", "(", ")",
  "[", "]", "\x7b", "\x7d", ",", ";", ".", ":", "~"]

def exponent (letters : List Char) : List Char → Nat
  | c :: cs =>
    if letters.contains c then
      let sign := match cs with
        | '+' :: _ | '-' :: _ => 1
        | _ => 0
      match digitRun Char.isDigit (cs.drop sign) with
      | 0 => 0
      | n => 1 + sign + n
    else 0
  | [] => 0

def based (fits : Char → Bool) (cs : List Char) : Option Nat :=
  let n := match cs with
    | '_' :: c :: rest => if fits c then digitRun fits (c :: rest) + 1 else 0
    | _ => digitRun fits cs
  if n = 0 then none else some n

def hexadecimal (cs : List Char) : Option Nat :=
  let whole := (based isHexDigit cs).getD 0
  let after := cs.drop whole
  let fraction := match after with
    | '.' :: rest => digitRun isHexDigit rest + 1
    | _ => 0
  match exponent ['p', 'P'] (after.drop fraction) with
  | 0 => if whole = 0 then none else some whole
  | n => if whole = 0 ∧ fraction ≤ 1 then none else some (whole + fraction + n)

def decimal (cs : List Char) : Option Nat :=
  let whole := digitRun Char.isDigit cs
  let after := cs.drop whole
  let fraction := match after with
    | '.' :: rest => if whole = 0 ∧ digitRun Char.isDigit rest = 0 then 0 else digitRun Char.isDigit rest + 1
    | _ => 0
  if whole = 0 ∧ fraction = 0 then none
  else
    let n := whole + fraction + exponent ['e', 'E'] (after.drop fraction)
    if n = whole then
      -- Without a point or an exponent, a number that begins with a zero is octal.
      match cs with
      | '0' :: rest => some (digitRun isOctalDigit rest + 1)
      | _ => some n
    else some n

def number? (cs : List Char) : Option Nat := do
  let n ← match cs with
    | '0' :: x :: rest =>
      if x = 'x' ∨ x = 'X' then (hexadecimal rest).map (· + 2)
      else if x = 'b' ∨ x = 'B' then (based isBinaryDigit rest).map (· + 2)
      else if x = 'o' ∨ x = 'O' then (based isOctalDigit rest).map (· + 2)
      else decimal cs
    | _ => decimal cs
  match cs.drop n with
  | 'i' :: _ => return n + 1
  | _ => return n

def escape? : List Char → Option Nat
  | 'x' :: a :: b :: _ => if isHexDigit a && isHexDigit b then some 3 else none
  | 'u' :: cs => if (cs.take 4).length = 4 && (cs.take 4).all isHexDigit then some 5 else none
  | 'U' :: cs => if (cs.take 8).length = 8 && (cs.take 8).all isHexDigit then some 9 else none
  | 'x' :: _ => none
  | _ :: _ => some 1
  | [] => none

def quotedRest? : Nat → List Char → Option Nat
  | 0, _ => none
  | fuel + 1, cs =>
    match cs with
    | '"' :: _ => some 1
    | '\\' :: rest => do
      let n ← escape? rest
      return n + 1 + (← quotedRest? fuel (rest.drop n))
    | '\n' :: _ => none
    | _ :: rest => return (← quotedRest? fuel rest) + 1
    | [] => none

def runeRest? : List Char → Option Nat
  | '\\' :: cs => do
    let n ← match cs with
      | a :: b :: c :: _ =>
        if isOctalDigit a then (if isOctalDigit b && isOctalDigit c then some 3 else none)
        else if ['x', 'u', 'U'].contains a then escape? cs
        else if ['a', 'b', 'f', 'n', 'r', 't', 'v', '\\', '\'', '"'].contains a then some 1
        else none
      | [a, _] => if ['a', 'b', 'f', 'n', 'r', 't', 'v', '\\', '\'', '"'].contains a then some 1 else none
      | _ => none
    match cs.drop n with
    | '\'' :: _ => return n + 2
    | _ => none
  | c :: '\'' :: _ => if c = '\'' then none else some 2
  | _ => none

def tokenAt? (p : Place) : Option (Token × Place) :=
  match p.rest with
  | [] => some (p.take .finish 0)
  | '"' :: cs => do return p.take .text ((← quotedRest? (cs.length + 1) cs) + 1)
  | '\x60' :: cs => do return p.take .text ((← through ['\x60'] cs) + 1)
  | '\'' :: cs => do return p.take .literal ((← runeRest? cs) + 1)
  | c :: cs =>
    if isNameStart c then some (p.take .word ((cs.takeWhile isWordChar).length + 1))
    else
      match number? p.rest with
      | some n => some (p.take .literal n)
      | none => do return p.take .mark (← markAt marks p.rest)

def tokensFrom : Nat → Place → Option (List Token)
  | 0, _ => none
  | fuel + 1, p => do
    let (t, p) ← tokenAt? (skipGap (p.rest.length + 1) p)
    if t.kind = .finish then return [t] else return t :: (← tokensFrom fuel p)

def tokens? (cs : List Char) : Option (List Token) :=
  let p : Place := { rest := cs, fresh := false }
  tokensFrom (cs.length + 1) (if cs.head? = some '\uFEFF' then p.skip 1 else p)

end Demarcation.Go
