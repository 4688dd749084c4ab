import Demarcation.Document
import Demarcation.Document.Toml
import Demarcation.Document.Toml.Writer
import Demarcation.FileTree
import Demarcation.SortedSet
import Demarcation.Warning

/-!
The settings of an analysis. They come in layers: the defaults, the user's file, the project's file and the values
given on the spot; a later layer hides the earlier ones.
-/

namespace Demarcation

open Text

inductive Setting where
  | includes
  | excludes
  | sampling
  | maxFiles
  | maxDependencyNodes
  | maxMergeCandidates
  | minConfidence
  | workers
  | timeout
  | extraKeywords
deriving DecidableEq, Repr, Inhabited

namespace Setting

def all : List Setting := [
  .includes, .excludes, .sampling, .maxFiles, .maxDependencyNodes, .maxMergeCandidates, .minConfidence, .workers,
  .timeout, .extraKeywords]

def name : Setting → String
  | .includes => "include"
  | .excludes => "exclude"
  | .sampling => "sampling"
  | .maxFiles => "max_files"
  | .maxDependencyNodes => "max_dependency_nodes"
  | .maxMergeCandidates => "max_merge_candidates"
  | .minConfidence => "min_confidence"
  | .workers => "workers"
  | .timeout => "timeout_seconds"
  | .extraKeywords => "extra_keywords"

def ofName? (name : String) : Option Setting := all.find? (·.name = name)

theorem mem_all (s : Setting) : s ∈ all := by cases s <;> decide

theorem ofName?_name (s : Setting) : ofName? s.name = some s := by cases s <;> decide

def defaultExcludes : List String := [
  "vendor/**", "**/vendor/**", "*_test.go", "**/*_test.go", "test_*.py", "**/test_*.py", "*_test.py",
  "**/*_test.py", "tests/**", "**/tests/**", "**/testdata/**"]

variable {R : Type} [Scalar R]

def default : Setting → Document R
  | .includes => .list []
  | .excludes => .texts defaultExcludes
  | .sampling => .text "importance"
  | .maxFiles => .int 150
  | .maxDependencyNodes => .int 100
  | .maxMergeCandidates => .int 400
  | .minConfidence => .number (Scalar.decimal 5 1)
  | .workers => .int 4
  | .timeout => .null
  | .extraKeywords => .list []

end Setting

structure Settings (R : Type) where
  value : Setting → Document R

namespace Settings

variable {R : Type} [Scalar R]

def samplingModes : List String := ["none", "stride", "importance"]

abbrev Layer (R : Type) := List (String × Document R)

def assemble (given : Layer R) : Settings R := ⟨fun s => (Document.find? s.name given).getD s.default⟩

def isLess (a b : Document R) : Except Fault Bool := return Scalar.lt (← a.number?) (← b.number?)

/-- The limit that a value sets for so many things. Only an integer can cut them down; any other number has to admit
them all. -/
def limitFor (count : Nat) : Document R → Except Fault Int
  | .int i => .ok i
  | .bool b => .ok b.toNat
  | d => do if Scalar.le (Scalar.ofNat count) (← d.number?) then return count else throw .wrongType

def checkSampling : Document R → Except Fault Unit
  | .text mode => if samplingModes.contains mode then .ok () else .error (.unknownSampling mode)
  | other => .error (.unknownSampling other.shown)

def checkLeast (bound : Int) (fault : Fault) (d : Document R) : Except Fault Unit := do
  if ← isLess d (.int bound) then .error fault else .ok ()

def checkShare (fault : Fault) (d : Document R) : Except Fault Unit := do
  let x ← d.number?
  if Scalar.le (Scalar.ofNat 0) x && Scalar.le x (Scalar.ofNat 1) then .ok () else .error fault

def check (s : Settings R) : Except Fault Unit := do
  checkSampling (s.value .sampling)
  checkLeast 1 .tooFewFiles (s.value .maxFiles)
  checkLeast 2 .tooFewDependencyNodes (s.value .maxDependencyNodes)
  checkShare .confidenceOutOfRange (s.value .minConfidence)

def validate (s : Settings R) : Except Fault (Settings R) := do
  s.check
  let workers ← (s.value .workers).asInt
  return ⟨fun x => if x = .workers then .int (max 1 workers) else s.value x⟩

def ofLayer (given : Layer R) : Except Fault (Settings R) :=
  if given.all fun e => (Setting.ofName? e.1).isSome then (assemble given).validate else .error .wrongType

def layer (s : Settings R) : Layer R := Setting.all.map fun x => (x.name, s.value x)

def entries (s : Settings R) : Layer R :=
  s.layer.filter fun e => !(e.1 = Setting.timeout.name && match e.2 with | .null => true | _ => false)

def present : Layer R → Except Fault (Layer R)
  | [] => .ok []
  | (_, .null) :: rest => present rest
  | (key, value) :: rest =>
    match Setting.ofName? key with
    | some _ => do return (key, value) :: (← present rest)
    | none => .error (.unknownSetting key)

def override (s : Settings R) (given : Layer R) : Except Fault (Settings R) := do
  ofLayer (Document.putAll s.layer (← present given))

def coerce (key raw : String) : Except Fault (Document R) :=
  match Setting.ofName? key with
  | none => .error (.unknownSetting key)
  | some s =>
    match s with
    | .maxFiles | .maxDependencyNodes | .maxMergeCandidates | .workers => do
      return .int (← (Document.text raw : Document R).asInt)
    | .minConfidence | .timeout => do return .number (← (Document.text raw : Document R).asNumber)
    | .includes | .excludes | .extraKeywords =>
      .ok (.texts (((raw.splitOn ",").map strip).filter (· ≠ "")))
    | .sampling => .ok (.text raw)

def userFile (home : String) : String := normalPath (home ++ "/config.toml")

def projectFile (root : String) : String := normalPath (root ++ "/codebound.toml")

def documentIn (t : FileTree) (path : String) : Except Fault (Document R) × List Warning :=
  if (t.find? path).isNone then (.ok (.table []), [])
  else
    match t.readText path >>= Document.Toml.read with
    | .ok d => (.ok d, [])
    | .error .badToml => (.ok (.table []), [.unreadableSettings path .badToml])
    | .error .isDirectory => (.ok (.table []), [.unreadableSettings path .isDirectory])
    | .error fault => (.error fault, [])

def section? (path : String) (d : Document R) : Except Fault (Layer R) × List Warning :=
  match d.getD "discovery" (.table []) with
  | .error fault => (.error fault, [])
  | .ok (.table given) =>
    let unknown := given.filter fun e => (Setting.ofName? e.1).isNone
    let names := SortedSet.ofList (unknown.map (·.1))
    (.ok (given.filter fun e => (Setting.ofName? e.1).isSome), names.toList.map (.unknownSetting · path))
  | .ok _ => (.ok [], [.sectionNotTable path])

def layerOf (t : FileTree) (path : String) : Except Fault (Layer R) × List Warning :=
  match documentIn t path with
  | (.error fault, warnings) => (.error fault, warnings)
  | (.ok d, warnings) =>
    let (given, more) := section? path d
    (given, warnings ++ more)

def projectLayerOf (t : FileTree) : Option String → Except Fault (Layer R) × List Warning
  | some root => layerOf t (projectFile root)
  | none => (.ok [], [])

def load (t : FileTree) (home : String) (root : Option String) (given : Layer R) :
    Except Fault (Settings R) × List Warning :=
  let (user, warnings) : Except Fault (Layer R) × List Warning := layerOf t (userFile home)
  let (project, more) : Except Fault (Layer R) × List Warning := projectLayerOf t root
  let settings : Except Fault (Settings R) := do
    let s ← ofLayer (Document.putAll (Document.putAll [] (← user)) (← project))
    if given.isEmpty then return s else s.override given
  (settings, warnings ++ match user with | .ok _ => more | .error _ => [])

structure Saved where
  tree : FileTree
  saved : Bool
  warnings : List Warning

/-- The key and the value that an item of a list stands for: its two members. A list or a table is no key. -/
def keyAndValue (position : Nat) (d : Document R) : Except Fault (Document R × Document R) := do
  match ← d.items with
  | [.list _, _] | [.table _, _] => .error .wrongType
  | [key, value] => return (key, value)
  | members => .error (.badPairs position members.length)

/-- The entries of a section that is to be changed: those of a table, or the pairs that are listed in its place. -/
def sectionEntries : Document R → Except Fault (Layer R)
  | .table given => .ok given
  | d => do
    let pairs ← (← d.items).zipIdx.mapM fun (item, position) => keyAndValue position item
    return Document.putAll [] (← pairs.mapM fun (key, value) => return (← key.asText, value))

def prepare (t : FileTree) (home key : String) (value : Document R) : Except Fault (Document R × List Warning) := do
  if (Setting.ofName? key).isNone then throw (.unknownSetting key)
  let (d, warnings) : Except Fault (Document R) × List Warning := documentIn t (userFile home)
  let d ← d
  let given := Document.put key value (← sectionEntries (← d.getD "discovery" (.table [])))
  let _ ← ofLayer given
  let entries := match d with
    | .table entries => entries
    | _ => []
  return (.table (Document.put "discovery" (.table given) entries), warnings)

/-- Writes a document to the user's file. That the file cannot be written is no fault. It is emptied before, so a document
that has no text leaves it empty. -/
def store (t : FileTree) (home : String) (d : Document R) (warnings : List Warning) : FileTree × Except Fault Saved :=
  match t.makeDirectory (FileTree.resolve home) with
  | .error fault => (t, .error fault)
  | .ok t =>
    let text := Document.Toml.write d
    let bytes := match text with
      | .ok text => text.toUTF8.toList
      | .error _ => []
    match t.write (userFile home) bytes with
    | .error fault => (t, .ok ⟨t, false, warnings ++ [.unwritableSettings (userFile home) fault]⟩)
    | .ok t => (t, text.map fun _ => ⟨t, true, warnings⟩)

def attempt (t : FileTree) (home key : String) (value : Document R) : FileTree × Except Fault Saved :=
  match prepare t home key value with
  | .error fault => (t, .error fault)
  | .ok (d, warnings) => store t home d warnings

def save (t : FileTree) (home key : String) (value : Document R) : Except Fault Saved := (attempt t home key value).2

variable (R) in
def change (t : FileTree) (home key raw : String) : FileTree × Except Fault (Document R × Saved) :=
  match coerce key raw with
  | .error fault => (t, .error fault)
  | .ok value =>
    let (t, saved) := attempt t home key value
    (t, saved.map (value, ·))

end Settings

end Demarcation
