import Demarcation.Document.Toml.Lines
import Demarcation.Document.Toml.Values

namespace Demarcation.Document.Toml

open Text

variable {R : Type} [Scalar R]

inductive Step where
  | key (name : String)
  | last

def modify (f : Document R → Except Fault (Document R)) : List Step → Document R → Except Fault (Document R)
  | [], d => f d
  | .key name :: steps, .table entries =>
    match find? name entries with
    | some d => do return .table (put name (← modify f steps d) entries)
    | none => .error .wrongType
  | .last :: steps, .list items =>
    match items.getLast? with
    | some d => do return .list (items.dropLast ++ [← modify f steps d])
    | none => .error .noSuchPosition
  | _, _ => .error .wrongType

def follow : List Step → Document R → Except Fault (Document R)
  | [], d => .ok d
  | .key name :: steps, .table entries =>
    match find? name entries with
    | some d => follow steps d
    | none => .error .wrongType
  | .last :: steps, .list items =>
    match items.getLast? with
    | some d => follow steps d
    | none => .error .noSuchPosition
  | _, _ => .error .wrongType

structure Reading (R : Type) where
  root : Document R := .table []
  path : List Step := []
  implicit : List String := []
  long : Option LongText := none

namespace Reading

def bareKey (c : Char) : Bool := (c.toNat < 128 && c.isAlphanum) || c = '_' || c = '-'

def names : Nat → List (List Char) → Except Fault (List String)
  | 0, _ => .ok []
  | _, [] => .ok []
  | fuel + 1, part :: parts =>
    let part := strip part
    if part.head? = some '"' ∨ part.head? = some '\'' then
      let joined (n : Nat) : List Char := if n = 0 then part else strip (join '.' (part :: parts.take n))
      let closed (n : Nat) : Bool := 1 < (joined n).length && (joined n).head? == (joined n).getLast?
      match (List.range (parts.length + 1)).find? closed with
      | some n => do return String.ofList (inside (joined n)) :: (← names fuel (parts.drop n))
      | none => .error .badToml
    else if part.isEmpty ∨ !part.all bareKey then .error .badToml
    else do return String.ofList part :: (← names fuel parts)

def readHeader (line : List Char) : Except Fault (List String × Bool) := do
  match line with
  | ['['] => .error .badToml
  | '[' :: '[' :: line =>
    match splitDouble line with
    | some header => return (← names (header.length + 1) (splitAll '.' header), true)
    | none => .error .badToml
  | line =>
    let line := line.drop 1
    let pieces := splitFirst ']' (cutCount ']' false 1 (quoteSplits line)) line
    require (1 < pieces.length && (strip (pieces.getLastD [])).isEmpty
      && pieces.length == cutCount ']' false 1 (quoteSplits line) + 1)
    let header := join ']' pieces.dropLast
    return (← names (header.length + 1) (splitAll '.' header), false)
where
  splitDouble (line : List Char) : Option (List Char) :=
    match line.reverse with
    | ']' :: ']' :: rest => some rest.reverse
    | _ => none

variable (doubled : Bool)

def emptyTable (isLast : Bool) : Document R := if isLast && doubled then .list [.table []] else .table []

def descend (s : Reading R) (name : String) (isLast : Bool) : Except Fault (Reading R) := do
  advance (← provide s)
where
  provide (s : Reading R) : Except Fault (Reading R) := do
    match ← follow s.path s.root with
    | .table entries => enter s entries
    | .list items =>
      match items.getLast? with
      | none => .error .noSuchPosition
      | some (.table entries) =>
        let s := { s with path := s.path ++ [.last] }
        if (find? name entries).isSome then return s
        else return { s with root := ← addTable s }
      | some _ => .error .wrongType
    | _ => .error .wrongType
  advance (s : Reading R) : Except Fault (Reading R) := do
    let s := { s with path := s.path ++ [.key name] }
    if doubled then
      match ← follow s.path s.root with
      | .list [] => .error .noSuchPosition
      | .list _ => return { s with path := s.path ++ [.last] }
      | .table _ => return s
      | _ => .error .wrongType
    else return s
  addTable (s : Reading R) : Except Fault (Document R) :=
    modify (fun
      | .table entries => .ok (.table (put name (emptyTable doubled isLast) entries))
      | _ => .error .wrongType) s.path s.root
  enter (s : Reading R) (entries : List (String × Document R)) : Except Fault (Reading R) := do
    match find? name entries with
    | none =>
      return { s with
        root := ← addTable s
        implicit := if isLast then s.implicit else name :: s.implicit }
    | some found =>
      if !isLast then return s
      else if s.implicit.contains name then
        if doubled then .error .badToml else return { s with implicit := s.implicit.erase name }
      else if doubled then
        match found with
        | .list items =>
          let root ← modify (fun _ => .ok (.list (items ++ [.table []]))) (s.path ++ [.key name]) s.root
          return { s with root }
        | _ => .error .notTable
      else .error .badToml

def enterAll (s : Reading R) : List String → Except Fault (Reading R)
  | [] => .ok s
  | name :: names => do
    require (!name.isEmpty)
    enterAll (← descend doubled s name names.isEmpty) names

def closes (t : LongText) (line : List Char) : Except Fault Bool :=
  match (t.read ++ line).head? with
  | some '[' =>
    match line.getLast? with
    | some c => .ok (c = ']')
    | none => .error .noSuchPosition
  | first => .ok (2 < line.length && (line.drop (line.length - 3)).all fun c => some c == first)

def continueLong (s : Reading R) (t : LongText) (line : List Char) : Except Fault (Reading R) := do
  let read := t.read ++ line
  if ← closes t line then
    let (value, _) ← readValue true (2 * read.length + 4) read
    let root ← modify (fun
      | .table entries => .ok (.table (put t.key value entries))
      | _ => .error .wrongType) s.path s.root
    return { s with root, long := none }
  else return { s with long := some (.ofLine t.key read) }

def readLine (s : Reading R) (line : List Char) : Except Fault (Reading R) := do
  match line with
  | '[' :: _ =>
    let (names, doubled) ← readHeader line
    enterAll doubled { s with path := [] } names
  | '\x7b' :: _ =>
    require (line.getLast? == some '\x7d')
    let lines ← tableItems line
    return { s with root := ← modify (readEntries (2 * line.length + 4) · lines) s.path s.root }
  | _ =>
    if line.contains '=' then
      let (d, long) ← readEntry (2 * line.length + 4) (← follow s.path s.root) line
      return { s with root := ← modify (fun _ => .ok d) s.path s.root, long }
    else return s

def step (s : Reading R) (line : List Char) : Except Fault (Reading R) :=
  match s.long with
  | none =>
    let line := strip line
    if line.isEmpty then .ok s else s.readLine line
  | some t =>
    let line := if t.joined || !t.read.contains '\n' then strip line else line
    if line.isEmpty && t.joined then .ok s else s.continueLong t line

end Reading

def read (text : String) : Except Fault (Document R) := do
  let s ← (← logicalLines text.toList).foldlM Reading.step ({} : Reading R)
  return s.root

end Demarcation.Document.Toml
