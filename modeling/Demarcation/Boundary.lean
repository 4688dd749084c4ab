import Demarcation.Fault
import Demarcation.Scalar

namespace Demarcation

def Scalar.share {R : Type} [Scalar R] (x : R) : R := roundTo 6 (clamp x)

structure Boundary (R : Type) where
  name : String
  description : String
  confidence : R
  files : List String := []
  structs : List String := []
  interfaces : List String := []
  functions : List String := []
  tables : List String := []
  reasoning : List String := []
  keywords : List String := []
  dependencies : List String := []
  declared : Bool := false
deriving Inhabited

namespace Boundary

variable {R : Type}

def elementCount (b : Boundary R) : Nat := b.structs.length + b.interfaces.length + b.functions.length

def declarations (b : Boundary R) : List String := b.structs ++ b.interfaces ++ b.functions

end Boundary

structure Metrics (R : Type) where
  overall : R
  semantic : R
  structural : R
  clarity : R
  database : R
deriving Inhabited

namespace Metrics

variable {R : Type} [Scalar R]

def zero : Metrics R :=
  ⟨Scalar.ofNat 0, Scalar.ofNat 0, Scalar.ofNat 0, Scalar.ofNat 0, Scalar.ofNat 0⟩

def map (f : R → R) (m : Metrics R) : Metrics R :=
  ⟨f m.overall, f m.semantic, f m.structural, f m.clarity, f m.database⟩

def quality (m : Metrics R) : R := Scalar.mean [m.semantic, m.structural, m.clarity, m.database]

end Metrics

inductive Overlap.Kind where
  | file
  | dependency
  | semantic
deriving DecidableEq, Repr, Inhabited

def Overlap.Kind.name : Kind → String
  | .file => "file"
  | .dependency => "dependency"
  | .semantic => "semantic"

def Overlap.Kind.ofName? : String → Except Fault Kind
  | "file" => .ok .file
  | "dependency" => .ok .dependency
  | "semantic" => .ok .semantic
  | name => .error (.unknownOverlap name)

structure Overlap (R : Type) where
  first : String
  second : String
  kind : Overlap.Kind
  strength : R
  suggestion : String
deriving Inhabited

inductive Recommendation.Kind where
  | merge
  | split
  | rename
  | moveFiles
deriving DecidableEq, Repr, Inhabited

def Recommendation.Kind.name : Kind → String
  | .merge => "merge"
  | .split => "split"
  | .rename => "rename"
  | .moveFiles => "move_files"

def Recommendation.Kind.ofName? : String → Except Fault Kind
  | "merge" => .ok .merge
  | "split" => .ok .split
  | "rename" => .ok .rename
  | "move_files" => .ok .moveFiles
  | name => .error (.unknownRecommendation name)

inductive Difficulty where
  | low
  | medium
  | high
deriving DecidableEq, Repr, Inhabited

def Difficulty.name : Difficulty → String
  | .low => "low"
  | .medium => "medium"
  | .high => "high"

def Difficulty.ofName? : String → Except Fault Difficulty
  | "low" => .ok .low
  | "medium" => .ok .medium
  | "high" => .ok .high
  | name => .error (.unknownDifficulty name)

structure Recommendation where
  kind : Recommendation.Kind
  boundaries : List String
  reason : String
  benefit : String
  difficulty : Difficulty
deriving Inhabited, DecidableEq

structure Analysis (R : Type) where
  clusterCount : Int := 0
  quality : R
  overlaps : List (Overlap R) := []
  orphans : List String := []
deriving Inhabited

structure Report (R : Type) where
  boundaries : List (Boundary R) := []
  metrics : Metrics R
  analysis : Analysis R
  recommendations : List Recommendation := []
  filesScanned : Int := 0
  filesAnalyzed : Int := 0
  nodeCount : Int := 0
  isPartial : Bool := false
deriving Inhabited

end Demarcation
