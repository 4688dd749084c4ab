import Demarcation.Candidate
import Demarcation.Cohesion
import Demarcation.Document.Json
import Demarcation.Document.Toml
import Demarcation.FileTree
import Demarcation.Text.Glob
import Demarcation.Warning

namespace Demarcation

open Text

structure UserBoundary where
  name : String
  description : String := ""
  paths : List String := []
deriving DecidableEq, Repr, Inhabited

namespace UserBoundary

def covers (b : UserBoundary) (path : String) : Bool := b.paths.any fun pattern => Glob.accepts pattern path

section

variable {R : Type} [Scalar R]

def patterns? (entries : List (String × Document R)) : Option (List String) :=
  match Document.find? "paths" entries with
  | some (.list (d :: ds)) => (d :: ds).mapM fun d => d.asText.toOption
  | _ => none

def ofEntry (file : String) (name : String) (d : Document R) : Except Fault UserBoundary :=
  match d with
  | .table entries =>
    match patterns? entries with
    | none => .error (.moduleWithoutPaths file name)
    | some paths =>
      match (Document.find? "description" entries).getD (.text "") with
      | .text description => .ok { name, description, paths }
      | _ => .error (.moduleDescriptionNotText file name)
  | _ => .error (.moduleNotTable file name)

def ofDocument (file : String) (d : Document R) : Except Fault (List UserBoundary) :=
  match d.getD "modules" .null with
  | .ok (.table (e :: es)) => (e :: es).mapM fun (name, d) => ofEntry file name d
  | _ => .error (.boundaryFileWithoutModules file)

def decode (path text : String) (limits : Document.Json.Limits := {}) : Except Fault (Document R) :=
  if lower (suffix path) = ".json" then Document.Json.read text limits else Document.Toml.read text

/-- What the fault of a file or of its decoder counts as. Bytes that are no text, and faults of a decoder that are not
about malformed text, stay as they are. -/
def unreadable : Fault → Fault
  | .badEncoding => .badEncoding
  | .wrongType => .wrongType
  | .noSuchPosition => .noSuchPosition
  | .notTable => .notTable
  | .tooDeep => .tooDeep
  | .loneSurrogate => .loneSurrogate
  | _ => .boundaryFileUnreadable

def documentIn (t : FileTree) (path : String) (limits : Document.Json.Limits := {}) : Except Fault (Document R) :=
  (t.readText path >>= fun text => decode path text limits).mapError unreadable

variable (R) in
def load (t : FileTree) (path : String) (limits : Document.Json.Limits := {}) : Except Fault (List UserBoundary) := do
  ofDocument (normalPath path) (← (documentIn t path limits : Except Fault (Document R)))

end

section

variable (R : Type) [Scalar R] (inv : Inventory)

def candidate (b : UserBoundary) (covered : List String) : Candidate R :=
  let members := inv.positions.filter fun i => inv.declarations[i]?.any fun d => covered.contains d.file
  let group := inv.pick members
  let words := SortedSet.ofList (nameTokens b.name)
  let words := if words.isEmpty then SortedSet.ofList [lower b.name] else words
  let cohesion : R := if group.isEmpty then Scalar.ofNat 0 else nameCohesion R group
  let c := Candidate.ofMembers inv "user" b.name members (words ∪ groupKeywords group) cohesion
  { c with files := c.files ∪ SortedSet.ofList covered, declared := true, description := b.description }

def candidates (declared : List UserBoundary) (files : List String) : List (Candidate R) × List Warning :=
  let covered := declared.map fun b => (b, files.filter b.covers)
  ((covered.filter fun p => !p.2.isEmpty).map fun p => candidate R inv p.1 p.2,
    (covered.filter fun p => p.2.isEmpty).map fun p => .matchesNothing p.1.name)

end

end UserBoundary

end Demarcation
