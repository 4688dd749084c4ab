import Demarcation.FileTree
import Demarcation.Language
import Demarcation.Settings
import Demarcation.Stride
import Demarcation.Text.Glob
import Demarcation.Text.Lowercase

namespace Demarcation

open Text

def Path.precedes (a b : String) : Bool := !decide (components b < components a)

def Path.sort (paths : List String) : List String := paths.mergeSort Path.precedes

structure Scan where
  includes : List String := []
  excludes : List String := Setting.defaultExcludes
  extensions : List String := Language.suffixes.map (·.1)

namespace Scan

def skipped : List String := [
  ".git", ".hg", ".svn", ".venv", "venv", "__pycache__", "node_modules", "site-packages", ".tox", ".pytest_cache",
  ".mypy_cache", ".ruff_cache", ".idea", ".vscode", "htmlcov", ".eggs", ".codebound"]

variable (s : Scan)

def admits (place : List String) : Bool :=
  let path := "/".intercalate place
  place.dropLast.all (!skipped.contains ·) && s.extensions.contains (suffix path)
    && (s.includes.isEmpty || s.includes.any (Glob.accepts · path))
    && !s.excludes.any (Glob.accepts · path)

def checkRoot (t : FileTree) (root : String) : Except Fault Unit :=
  match t.find? root with
  | none => .error (.rootMissing (normalPath root))
  | some (.file _) => .error (.rootNotDirectory (normalPath root))
  | some .directory => .ok ()

def files (t : FileTree) (root : String) : List String :=
  (((t.filesBelow root).filter s.admits).mergeSort fun a b => !decide (b < a)).map ("/".intercalate ·)

def run (t : FileTree) (root : String) : Except Fault (List String) := do
  checkRoot t root
  return s.files t root

def ofSettings {R : Type} [Scalar R] (settings : Settings R) : Except Fault Scan := do
  let includes := settings.value .includes
  return {
    includes := ← if includes.truth then includes.asTexts else pure []
    excludes := ← match settings.value .excludes with
      | .null => pure Setting.defaultExcludes
      | patterns => patterns.asTexts }

end Scan

inductive Sampling where
  | none
  | stride
  | importance
deriving DecidableEq, Repr

namespace Sampling

def ofName : String → Sampling
  | "stride" => .stride
  | "importance" => .importance
  | _ => .none

section

variable (R : Type) [Scalar R]

def hints : List (List String × Nat) := [
  (["handler", "controller"], 3), (["service", "usecase"], 3), (["repository", "dao"], 3),
  (["model", "entity"], 2), (["domain", "core"], 2)]

def mentions (word : List Char) : List Char → Bool
  | [] => word.isEmpty
  | c :: cs => word.isPrefixOf (c :: cs) || mentions word cs

def weight (path : String) (size : Nat) : R :=
  let text := lowerFrom [] (normalPath path).toList
  let depth : R := Scalar.max (Scalar.ofNat 0) (Scalar.ofNat 5 - Scalar.ofNat (components path).length)
  let named := hints.foldl (fun score h =>
    if h.1.any fun word => mentions word.toList text then score + Scalar.ofNat h.2 else score) depth
  named + Scalar.min (Scalar.ofNat 3) (Scalar.ofNat size / Scalar.ofNat 10000)

def ranksBefore (a b : String × R) : Bool :=
  if Scalar.lt b.2 a.2 then true else if Scalar.lt a.2 b.2 then false else decide (a.1 ≤ b.1)

def mostImportant (sizeOf : String → Nat) (limit : Nat) (paths : List String) : List String :=
  if paths.length ≤ limit then Path.sort paths
  else
    let scored := paths.map fun p => (p, weight R p (sizeOf p))
    Path.sort (((scored.mergeSort (ranksBefore R)).take limit).map (·.1))

def evenlySpaced (limit : Int) (paths : List String) : Except Fault (List String) :=
  strideSample (Path.sort paths) limit

end

variable {R : Type} [Scalar R]

def sample (settings : Settings R) (sizeOf : String → Nat) (paths : List String) : Except Fault (List String) := do
  let limit := Settings.limitFor paths.length (settings.value .maxFiles)
  match ofName (settings.value .sampling).shown with
  | .none => return paths
  | .stride => evenlySpaced (← limit) paths
  | .importance => return mostImportant R sizeOf (← limit).toNat paths

end Sampling

end Demarcation
