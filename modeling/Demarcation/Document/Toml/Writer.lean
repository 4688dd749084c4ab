import Demarcation.Document
import Demarcation.Text.Split

namespace Demarcation.Document.Toml

open Text

variable {R : Type} [Scalar R]

def splitHex : List Char → List (List Char)
  | [] => [[]]
  | [c] => [[c]]
  | a :: b :: cs =>
    if a = '\\' ∧ b = 'x' then [] :: splitHex cs
    else
      match splitHex (b :: cs) with
      | [] => [[a]]
      | piece :: pieces => (a :: piece) :: pieces

def halve : List Char → List Char
  | '\\' :: '\\' :: cs => '\\' :: halve cs
  | c :: cs => c :: halve cs
  | [] => []

/-- Joins the pieces between escapes of two digits: the mark `x` is kept without its backslash, and after an even
number of backslashes the four-digit form stands in its place. -/
def joinHex : List Char → List (List Char) → Except Fault (List Char)
  | piece, [] => .ok piece
  | [], [_] => .error .noSuchPosition
  | [], piece :: next :: pieces => joinHex (link piece ++ next) pieces
  | c :: cs, next :: pieces => joinHex (link (c :: cs) ++ next) pieces
where
  link (piece : List Char) : List Char :=
    let piece := halve piece
    let trailing := (piece.reverse.takeWhile (· = '\\')).length
    let marked := (trailing = 0) != (min trailing (piece.length - 1) % 2 = 1 : Bool)
    piece ++ (if marked then ['x'] else ['u', '0', '0'])

def writeText (s : String) : Except Fault String := do
  let cs := (quoted s).toList
  let body := inside cs
  let body := if cs.head? = some '\'' then body.flatMap fun c => if c = '"' then ['\\', '"'] else [c] else body
  match splitHex (unquote (cs.head? = some '\'') body) with
  | [] => return "\"\""
  | piece :: pieces => return "\"" ++ String.ofList (← joinHex piece pieces) ++ "\""
where
  unquote (single : Bool) : List Char → List Char
    | '\\' :: '\'' :: cs => if single then '\'' :: unquote single cs else '\\' :: '\'' :: unquote single cs
    | '\\' :: c :: cs => '\\' :: c :: unquote single cs
    | c :: cs => c :: unquote single cs
    | [] => []

def writeNumber (x : R) : String := String.ofList (go (Scalar.text x).toList)
where
  go : List Char → List Char
    | 'e' :: sign :: '0' :: cs => if sign = '+' ∨ sign = '-' then 'e' :: sign :: cs else 'e' :: sign :: '0' :: cs
    | c :: cs => c :: go cs
    | [] => []

mutual

def writeValue : Document R → Except Fault String
  | .null => writeText "None"
  | .bool b => .ok (if b then "true" else "false")
  | .int i => .ok (toString i)
  | .number x => .ok (writeNumber x)
  | .text s => writeText s
  | .moment m => .ok m.written
  | .list items => do return "[" ++ String.join (← writeItems items) ++ "]"
  | .table entries => do
    return "[" ++ String.join (← entries.mapM fun e => do return " " ++ (← writeText e.1) ++ ",") ++ "]"

def writeItems : List (Document R) → Except Fault (List String)
  | [] => .ok []
  | d :: ds => do return (" " ++ (← writeValue d) ++ ",") :: (← writeItems ds)

end

def isTable : Document R → Bool
  | .table _ => true
  | _ => false

def tables? : Document R → Option (List (Document R))
  | .list items => if items.any isTable then some items else none
  | _ => none

def writeKey (key : String) : Except Fault String :=
  let bare (c : Char) : Bool := (c.toNat < 128 && c.isAlphanum) || c = '_' || c = '-'
  if !key.isEmpty && key.toList.all bare then .ok key else writeText key

abbrev Sections (R : Type) := List (String × Document R)

mutual

def writeEntries : Nat → String → List (String × Document R) → Except Fault (String × Sections R)
  | 0, _, _ => .ok ("", [])
  | fuel + 1, above, entries => do
    let plain ← entries.mapM fun (key, value) => do
      if isTable value || (tables? value).isSome then return ""
      else
        match value with
        | .null => return ""
        | value => return (← writeKey key) ++ " = " ++ (← writeValue value) ++ "\n"
    let lists ← entries.mapM fun (key, value) => do
      match tables? value with
      | some items =>
        let name := above ++ (← writeKey key)
        return String.join (← items.mapM fun item => writeListed fuel name item)
      | none => return ""
    let inner ← (entries.filter fun e => isTable e.2).mapM fun e => return (← writeKey e.1, e.2)
    return (String.join plain ++ String.join lists, inner)

def writeListed : Nat → String → Document R → Except Fault String
  | 0, _, _ => .ok ""
  | fuel + 1, name, .table entries => do
    let (body, inner) ← writeEntries fuel (name ++ ".") entries
    let (before, after) := if body.startsWith "[" then ("", body) else (body, "")
    let below ← writeBelow fuel name inner
    return "[[" ++ name ++ "]]\n" ++ before ++ "\n" ++ after ++ below
  | _, _, _ => .error .wrongType

def writeBelow : Nat → String → Sections R → Except Fault String
  | 0, _, _ => .ok ""
  | _, _, [] => .ok ""
  | fuel + 1, name, sections => do
    let written ← sections.mapM fun (key, value) => do
      match value with
      | .table entries =>
        let (body, inner) ← writeEntries fuel (name ++ "." ++ key ++ ".") entries
        let section? := if body.isEmpty then "" else "[" ++ name ++ "." ++ key ++ "]\n" ++ body
        return (section?, inner.map fun e => (key ++ "." ++ e.1, e.2))
      | _ => return ("", [])
    return String.join (written.map (·.1)) ++ (← writeBelow fuel name (written.flatMap (·.2)))

end

/-- The sections of the tables of one level after another. A section that has only sections inside is left out. -/
def writeSections : Nat → String → Sections R → Except Fault String
  | 0, written, _ => .ok written
  | _, written, [] => .ok written
  | fuel + 1, written, sections => do
    let (written, inner) ← sections.foldlM (fun (written, inner) (name, value) => do
      match value with
      | .table entries =>
        let (body, below) ← writeEntries (fuel + 1) (name ++ ".") entries
        let below := below.map fun e => (name ++ "." ++ e.1, e.2)
        if body.isEmpty && !below.isEmpty then return (written, inner ++ below)
        else
          let gap := if written.isEmpty || written.endsWith "\n\n" then "" else "\n"
          return (written ++ gap ++ "[" ++ name ++ "]\n" ++ body, inner ++ below)
      | _ => return (written, inner)) (written, [])
    writeSections fuel written inner

mutual

def depth : Document R → Nat
  | .list items => depths items + 1
  | .table entries => entryDepths entries + 1
  | _ => 1

def depths : List (Document R) → Nat
  | [] => 0
  | d :: ds => max (depth d) (depths ds)

def entryDepths : List (String × Document R) → Nat
  | [] => 0
  | (_, d) :: es => max (depth d) (entryDepths es)

end

def write (d : Document R) : Except Fault String :=
  match d with
  | .table entries => do
    let fuel := 2 * depth d + 2
    let (written, sections) ← writeEntries fuel "" entries
    writeSections fuel written sections
  | _ => .error .wrongType

end Demarcation.Document.Toml
