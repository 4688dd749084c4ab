import Demarcation.Fault
import Demarcation.Text.Path
import Demarcation.Text.Utf8

namespace Demarcation

open Text

inductive FileTree.Node where
  | file (bytes : List UInt8)
  | directory

structure FileTree where
  nodes : List (List String × FileTree.Node) := []
deriving Inhabited

namespace FileTree

/-- The components of a path; two points take back the component before. -/
def resolve (path : String) : List String :=
  (components path).foldl (fun done c => if c = ".." then done.dropLast else done ++ [c]) []

variable (t : FileTree)

def at? (place : List String) : Option Node :=
  if place.isEmpty then some .directory else t.nodes.lookup place

def find? (path : String) : Option Node := if path.startsWith "/" then none else t.at? (resolve path)

def isBelowFile (place : List String) : Bool :=
  (List.range place.length).any fun n =>
    match t.at? (place.take n) with
    | some (.file _) => true
    | _ => false

def readBytes (path : String) : Except Fault (List UInt8) :=
  match t.find? path with
  | some (.file bytes) => .ok bytes
  | some .directory => .error .isDirectory
  | none => .error (if t.isBelowFile (resolve path) then .notDirectory else .fileMissing)

def textOf (bytes : List UInt8) : Except Fault String :=
  match Utf8.decode? bytes with
  | some cs => .ok (String.ofList (Utf8.normalizeBreaks cs))
  | none => .error .badEncoding

def readText (path : String) : Except Fault String := do textOf (← t.readBytes path)

def readKnown (path : String) : Except Fault String := do
  return String.ofList (Utf8.normalizeBreaks (Utf8.decodeKnown (← t.readBytes path)))

def fileSize (path : String) : Nat :=
  match t.find? path with
  | some (.file bytes) => bytes.length
  | _ => 0

def put (place : List String) (node : Node) : FileTree :=
  ⟨t.nodes.filter (fun n => n.1 ≠ place) ++ [(place, node)]⟩

def makeLevel (place : List String) (t : FileTree) (n : Nat) : Except Fault FileTree :=
  let here := place.take n
  match t.at? here with
  | some (.file _) => .error (if n = place.length then .fileExists else .notDirectory)
  | some .directory => .ok t
  | none => .ok (t.put here .directory)

def makeDirectory (place : List String) : Except Fault FileTree :=
  (List.range (place.length + 1)).foldlM (makeLevel place) t

def write (path : String) (bytes : List UInt8) : Except Fault FileTree := do
  let place := resolve path
  let t ← t.makeDirectory place.dropLast
  match t.at? place with
  | some .directory => .error .isDirectory
  | _ => return t.put place (.file bytes)

def remove (path : String) : Except Fault FileTree :=
  match t.find? path with
  | none => .error .fileMissing
  | some _ => .ok ⟨t.nodes.filter fun n => !(resolve path).isPrefixOf n.1⟩

def filesBelow (root : String) : List (List String) :=
  let root := resolve root
  t.nodes.filterMap fun n =>
    match n.2 with
    | .file _ => if root.isPrefixOf n.1 ∧ root ≠ n.1 then some (n.1.drop root.length) else none
    | .directory => none

end FileTree

end Demarcation
