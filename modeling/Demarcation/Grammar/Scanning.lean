import Demarcation.Grammar.Reading

namespace Demarcation.Grammar

structure Place where
  rest : List Char
  offset : Nat := 0
  line : Nat := 1
  fresh : Bool := true
  indent : Nat := 0

namespace Place

def skip (p : Place) (n : Nat) : Place :=
  { p with
    rest := p.rest.drop n
    offset := p.offset + n
    line := p.line + (p.rest.take n).count '\n' }

def take {κ : Type} (p : Place) (kind : κ) (n : Nat) : Token κ × Place :=
  ({ kind
     text := String.ofList (p.rest.take n)
     source := p.rest
     start := p.offset
     stop := p.offset + n
     line := p.line
     fresh := p.fresh
     indent := p.indent },
    { p.skip n with fresh := false })

end Place

def spanOf (fits : Char → Bool) (cs : List Char) : Option Nat :=
  match (cs.takeWhile fits).length with
  | 0 => none
  | n => some n

def digitRun (fits : Char → Bool) : List Char → Nat
  | '_' :: c :: cs => if fits c then digitRun fits (c :: cs) + 1 else 0
  | c :: cs => if fits c then digitRun fits cs + 1 else 0
  | [] => 0

def isHexDigit (c : Char) : Bool := c.isDigit || ('a' ≤ c && c ≤ 'f') || ('A' ≤ c && c ≤ 'F')

def isOctalDigit (c : Char) : Bool := '0' ≤ c && c ≤ '7'

def isBinaryDigit (c : Char) : Bool := c == '0' || c == '1'

/-- The first mark of a list that begins a text; longer marks come first in the list. -/
def markAt (marks : List String) (cs : List Char) : Option Nat :=
  (marks.find? fun m => m.toList.isPrefixOf cs).map (·.length)

def through (pattern : List Char) : List Char → Option Nat
  | [] => if pattern.isEmpty then some 0 else none
  | c :: cs => if pattern.isPrefixOf (c :: cs) then some pattern.length else (through pattern cs).map (· + 1)

end Demarcation.Grammar
