import Demarcation.Fault
import Demarcation.Text.Blank
import Demarcation.Text.Split
import Demarcation.Text.WordChar

/-!
The logical lines of a TOML text. Comments are blanked out, line breaks inside brackets become blanks, and line
breaks inside texts of several lines are kept. A line must begin with a key or a table header, and a text of one line
must end on its line.
-/

namespace Demarcation.Document.Toml

open Text

inductive KeyState where
  | none
  | part
  | done
deriving DecidableEq

structure Scan where
  /-- What has been written, the last character first. -/
  written : List Char := []
  key : KeyState := .none
  dotted : Bool := false
  quote : Option Char := .none
  long : Bool := false
  depth : Int := 0
  header : Bool := false
  doubleHeader : Bool := false
  fresh : Bool := true

namespace Scan

def write (s : Scan) (c : Char) : Scan := { s with written := c :: s.written }

def escaped (written : List Char) : Bool := (written.takeWhile (· = '\\')).length % 2 = 1

def resume (s : Scan) (next : Option Char) : Except Fault Scan :=
  match next with
  | .none => .error .noSuchPosition
  | some c => .ok (if isBlank c ∨ c = '.' then s else { s with key := .part })

def keyChar (s : Scan) (c : Char) (next : Option Char) : Except Fault (Option Scan) :=
  if c = '\n' then .error .badToml
  else
    match s.quote with
    | some q =>
      .ok (some (if c = q ∧ !escaped s.written then { s with key := .done, quote := .none } else s))
    | .none =>
      if s.key = .part ∧ isBlank c then .ok (some { s with key := .done })
      else if s.key = .part ∧ c = '.' then .ok (some { s with dotted := true })
      else if s.key = .part ∧ (isWordChar c ∨ c = '-') then .ok (some s)
      else if s.key = .part ∧ s.dotted ∧ s.written.head? = some '.' ∧ (c = '"' ∨ c = '\'') then
        .ok (some { s with quote := some c })
      else if s.key = .done ∧ isBlank c then (if s.dotted then (s.resume next).map some else .ok (some s))
      else if s.key = .done ∧ c = '.' then ({ s with dotted := true }.resume next).map some
      else if c = '=' then .ok .none
      else .error .badToml

def run (q : Char) : List Char → Nat
  | a :: b :: _ => if a = q then (if b = q then 2 else 1) else 0
  | [a] => if a = q then 1 else 0
  | [] => 0

/-- A quotation mark opens or closes a text; the third of a row opens or closes one of several lines. -/
def quoteChar (s : Scan) (c : Char) : Scan :=
  let count := run c s.written
  let toggle (isOpen : Bool) : Scan := { s with quote := if isOpen then some c else .none }
  if c = '"' ∧ count ≠ 1 ∧ escaped (s.written.drop count) then toggle s.quote.isSome
  else if count = 2 then { toggle !s.long with long := !s.long }
  else toggle !s.quote.isSome

def bracket (s : Scan) (c : Char) (next : Option Char) : Scan :=
  if c = '[' ∧ s.quote.isNone ∧ !s.header ∧ !s.doubleHeader then
    if s.fresh then
      if next = some '[' then { s with doubleHeader := true } else { s with header := true }
    else { s with depth := s.depth + 1 }
  else if c = ']' ∧ s.quote.isNone then
    if s.header then { s with header := false }
    else if s.doubleHeader then
      if s.written.head? = some ']' then { s with doubleHeader := false } else s
    else { s with depth := s.depth - 1 }
  else s

/-- A line break. Right after the marks that open a text of several lines it is dropped. -/
def lineBreak (s : Scan) : Except Fault Scan :=
  if s.quote.isSome ∨ s.long then
    if !s.long then .error .badToml
    else
      match s.written with
      | a :: b :: c :: rest =>
        if (a = '\'' ∨ a = '"') ∧ b = a then
          .ok { s with written := a :: a :: b :: (if c = a then ' ' else c) :: rest }
        else .ok (s.write '\n')
      | _ => .ok (s.write '\n')
  else if s.depth ≠ 0 then .ok (s.write ' ')
  else .ok { s.write '\n' with fresh := true }

def begin (s : Scan) (c : Char) : Except Fault Scan :=
  if s.fresh ∧ c ≠ ' ' ∧ c ≠ '\t' then
    if s.header ∨ s.doubleHeader then .ok { s with fresh := false }
    else if c = '=' then .error .badToml
    else .ok { s with fresh := false, key := .part }
  else .ok s

def valueChar (s : Scan) (c : Char) (next : Option Char) : Except Fault Scan := do
  let s := if (c = '\'' ∧ s.quote ≠ some '"') ∨ (c = '"' ∧ s.quote ≠ some '\'') then s.quoteChar c else s
  let s := s.bracket c next
  if c = '\n' then s.lineBreak else return (← s.begin c).write c

def startsComment (s : Scan) (c : Char) : Bool :=
  c == '#' && s.quote.isNone && !s.header && !s.doubleHeader

def run? (s : Scan) (comment : Bool) : List Char → Except Fault Scan
  | [] => .ok s
  | c :: cs =>
    let next := cs.head?
    if comment ∧ c ≠ '\n' then run? (s.write ' ') true cs
    else if c = '\r' ∧ cs.isEmpty then .error .noSuchPosition
    else if c = '\r' ∧ next = some '\n' then run? (s.write ' ') false cs
    else
      let value (s : Scan) : Except Fault Scan :=
        if s.startsComment c then run? (s.write ' ') true cs
        else do run? (← s.valueChar c next) false cs
      if s.key = .none then value s
      else do
        match ← s.keyChar c next with
        | some s => run? (s.write c) false cs
        | .none => value { s with key := .none, dotted := false }

end Scan

def logicalLines (text : List Char) : Except Fault (List (List Char)) := do
  let s ← Scan.run? {} false text
  if s.key ≠ .none ∨ s.quote.isSome then .error .badToml
  else return splitAll '\n' s.written.reverse

end Demarcation.Document.Toml
