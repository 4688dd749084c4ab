import Demarcation.Declaration
import Demarcation.Text.Blank
import Demarcation.Text.Names
import Demarcation.Text.WordChar

/-!
The database tables that a piece of text names, in SQL statements and in calls of object-relational mappers. Each
pattern is looked for from left to right, and a match begins where the one before it ended or later.
-/

namespace Demarcation

open Text

namespace TableAccess

/-- The rest of `cs` after `word`, whatever the case of its letters. A long s, a dotless or dotted i and the Kelvin
sign are read as the letters s, i and k. -/
def dropWord? : List Char → List Char → Option (List Char)
  | [], cs => some cs
  | _ :: _, [] => none
  | w :: ws, c :: cs =>
    let same := c.toUpper == w || (w == 'S' && c == 'ſ') || (w == 'I' && (c == 'ı' || c == 'İ'))
      || (w == 'K' && c == 'K')
    if same then dropWord? ws cs else none

def dropBlanks (cs : List Char) : List Char := cs.dropWhile isBlank

def dropBlanks? : List Char → Option (List Char)
  | [] => none
  | c :: cs => if isBlank c then some (dropBlanks cs) else none

def isQuote (c : Char) : Bool := c == '"' || c == '\'' || c == '\x60'

def dropQuote : List Char → List Char
  | [] => []
  | c :: cs => if isQuote c then cs else c :: cs

def word? (cs : List Char) : Option (List Char × List Char) :=
  let w := cs.takeWhile isWordChar
  if w.isEmpty then none else some (w, cs.drop w.length)

def table? (cs : List Char) : Option (List Char × List Char) := word? (dropQuote cs)

/-- A pattern: given the character before and the text from there on, the table that it names and the rest. -/
abbrev Pattern := Option Char → List Char → Option (List Char × List Char)

def tableCall : Pattern := fun _ cs => do
  let cs ← dropWord? ['.', 'T', 'A', 'B', 'L', 'E'] cs
  let cs ← dropWord? ['('] (dropBlanks cs)
  match dropBlanks cs with
  | [] => none
  | q :: cs =>
    if isQuote q then
      let (name, cs) ← word? cs
      match cs with
      | [] => none
      | q :: cs => if isQuote q then (dropWord? [')'] (dropBlanks cs)).map (name, ·) else none
    else none

def dropExact? : List Char → List Char → Option (List Char)
  | [], cs => some cs
  | _ :: _, [] => none
  | w :: ws, c :: cs => if w == c then dropExact? ws cs else none

def modelCall : Pattern := fun _ cs => do
  let cs ← dropExact? ['.', 'M', 'o', 'd', 'e', 'l'] cs
  let cs ← dropExact? ['('] (dropBlanks cs)
  let cs ← dropExact? ['&'] (dropBlanks cs)
  let (name, cs) ← word? cs
  let cs ← dropExact? ['\x7b'] (dropBlanks cs)
  return (name, cs)

def fromClause (before : Option Char) : List Char → Option (List Char × List Char)
  | [] => none
  | c :: cs =>
    let here := do
      guard (isWordEdge before (some c))
      let rest ← dropWord? ['F', 'R', 'O', 'M'] (c :: cs)
      table? (← dropBlanks? rest)
    here <|> if c == ';' then none else fromClause (some c) cs

def selectStatement : Pattern := fun before cs => do
  guard (isWordEdge before cs.head?)
  let cs ← dropWord? ['S', 'E', 'L', 'E', 'C', 'T'] cs
  guard (isWordEdge (some 'T') cs.head?)
  fromClause (some 'T') cs

def insertStatement : Pattern := fun before cs => do
  guard (isWordEdge before cs.head?)
  let cs ← dropBlanks? (← dropWord? ['I', 'N', 'S', 'E', 'R', 'T'] cs)
  table? (← dropBlanks? (← dropWord? ['I', 'N', 'T', 'O'] cs))

def updateStatement : Pattern := fun before cs => do
  guard (isWordEdge before cs.head?)
  let (name, cs) ← table? (← dropBlanks? (← dropWord? ['U', 'P', 'D', 'A', 'T', 'E'] cs))
  let cs ← dropWord? ['S', 'E', 'T'] (← dropBlanks? (dropQuote cs))
  guard (isWordEdge (some 'T') cs.head?)
  return (name, cs)

def deleteStatement : Pattern := fun before cs => do
  guard (isWordEdge before cs.head?)
  let cs ← dropBlanks? (← dropWord? ['D', 'E', 'L', 'E', 'T', 'E'] cs)
  table? (← dropBlanks? (← dropWord? ['F', 'R', 'O', 'M'] cs))

/-- The tables named by the matches of a pattern. `skip` characters belong to the match before. -/
def matches? (p : Pattern) (before : Option Char) (skip : Nat) : List Char → List String
  | [] => []
  | c :: cs =>
    match skip with
    | skip + 1 => matches? p (some c) skip cs
    | 0 =>
      match p before (c :: cs) with
      | some (name, rest) => String.ofList name :: matches? p (some c) (cs.length - rest.length) cs
      | none => matches? p (some c) 0 cs

end TableAccess

open TableAccess in
def sqlTables (text : String) : List String :=
  let cs := text.toList
  let found (p : Pattern) := matches? p none 0 cs
  distinctNames (found tableCall ++ (found modelCall).map snakeCase ++ found selectStatement
    ++ found insertStatement ++ found updateStatement ++ found deleteStatement)

def occurs (word : List Char) : List Char → Bool
  | [] => word.isEmpty
  | c :: cs => word.isPrefixOf (c :: cs) || occurs word cs

def inferOperation (function : String) (calls : List String) : Operation :=
  let name := lowerFrom [] function.toList
  let called := lowerFrom [] (" ".intercalate calls).toList
  let has (word : String) (cs : List Char) := occurs word.toList cs
  if has "create" name || has "insert" name || has "create" called then .insert
  else if has "update" name || has "update" called then .update
  else if has "delete" name || has "delete" called then .delete
  else .select

def Declaration.accesses (d : Declaration) : List Access :=
  let operation := inferOperation d.name d.calls
  d.tables.map fun table => ⟨table, operation, d.file, d.name⟩

end Demarcation
