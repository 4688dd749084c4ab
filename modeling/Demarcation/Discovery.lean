import Demarcation.Advice
import Demarcation.Clustering
import Demarcation.Merge
import Demarcation.Scan
import Demarcation.Scoring
import Demarcation.Source
import Demarcation.UserBoundary

namespace Demarcation

variable {R : Type} [Scalar R]

/-- The readings of a clock that are still to come. After the last one time stands still. -/
structure Clock (R : Type) where
  last : R
  next : List R

namespace Clock

def ofReadings (readings : List R) : Clock R := ⟨readings.getLastD (Scalar.ofNat 0), readings⟩

def read (c : Clock R) : R × Clock R :=
  match c.next with
  | [] => (c.last, c)
  | t :: ts => (t, { c with next := ts })

end Clock

structure Deadline (R : Type) where
  limit : Option R
  started : R

namespace Deadline

def elapsed (d : Deadline R) (now : R) : R := now - d.started

def isExpired (d : Deadline R) (clock : Clock R) : Bool × Clock R :=
  match d.limit with
  | none => (false, clock)
  | some limit =>
    let (now, clock) := clock.read
    (Scalar.le limit (d.elapsed now), clock)

def unlessExpired {α : Type} (d : Deadline R) (clock : Clock R) (stopped : α) (next : Clock R → Except Fault α) :
    Except Fault α :=
  let (expired, clock) := d.isExpired clock
  if expired then .ok stopped else next clock

theorem unlessExpired_eq_or {α : Type} (d : Deadline R) (clock : Clock R) (stopped : α)
    (next : Clock R → Except Fault α) :
    d.unlessExpired clock stopped next = .ok stopped ∨
      ∃ later, d.unlessExpired clock stopped next = next later := by
  cases h : (d.isExpired clock).1 with
  | true => exact Or.inl (if_pos h)
  | false => exact Or.inr ⟨_, if_neg (Bool.eq_false_iff.1 h)⟩

def limitOf : Document R → Except Fault (Option R)
  | .null => .ok none
  | d => d.number?.map some

end Deadline

structure Selection (R : Type) where
  pairs : List (Candidate R × Boundary R)

namespace Selection

variable (s : Selection R)

def boundaries : List (Boundary R) := s.pairs.map (·.2)

def metrics : Metrics R := Metrics.ofSelection s.pairs

def quality : R := Scalar.share s.metrics.quality

def report (inv : Inventory) (scanned analyzed : Nat) : Report R where
  boundaries := s.boundaries
  metrics := s.metrics
  analysis := {
    clusterCount := s.boundaries.length
    quality := s.quality
    overlaps := Boundary.overlaps s.boundaries
    orphans := orphanedFiles inv s.boundaries }
  recommendations := Boundary.recommendations s.boundaries
  filesScanned := scanned
  filesAnalyzed := analyzed
  nodeCount := inv.size

end Selection

def Report.stopped (scanned analyzed nodes : Nat) : Report R where
  metrics := Metrics.zero
  analysis := { quality := Scalar.ofNat 0 }
  filesScanned := scanned
  filesAnalyzed := analyzed
  nodeCount := nodes
  isPartial := true

namespace Settings

variable (s : Settings R)

def keyword : Document R → Except Fault String
  | .text word => .ok word
  | _ => .error .notTable

def clusteringOptions : Except Fault ClusteringOptions := do
  let words ← (s.value .extraKeywords).items
  return {
    nodeLimit := fun count => limitFor count (s.value .maxDependencyNodes)
    keywords := words.mapM keyword }

/-- The limit that so many candidates are compared with. They do not exceed one that is infinite or no number. -/
def mergeLimit (count : Nat := 0) : Except Fault Int :=
  match s.value .maxMergeCandidates with
  | .int i => .ok i
  | d => do
    let x ← d.number?
    match Scalar.truncate x with
    | .ok i => return i
    | .error _ => return if Scalar.lt x (Scalar.ofNat 0) then -1 else count

def confidence : Except Fault R := (s.value .minConfidence).number?

end Settings

def propose (inv : Inventory) (options : ClusteringOptions) (strategies : List (Strategy R))
    (declared : List UserBoundary) (files : List String) : List (Candidate R) × List (Candidate R) × List Warning :=
  let (user, unmatched) := UserBoundary.candidates R inv declared files
  let (found, failures) := runStrategies inv options strategies
  (user, found, unmatched ++ failures.map fun f => .strategyFailed f.strategy f.fault)

structure Discovery (R : Type) where
  root : String
  settings : Settings R
  boundaryFile : Option String := none
  strategies : List (Strategy R)
  clock : Clock R

namespace Discovery

structure Prepared where
  declared : List UserBoundary
  scanned : List String
  files : List String

def prepare (d : Discovery R) (t : FileTree) : Except Fault Prepared := do
  Scan.checkRoot t d.root
  let declared ← match d.boundaryFile with
    | some path => UserBoundary.load R t path
    | none => pure []
  let scanned := (← Scan.ofSettings d.settings).files t d.root
  let files ← Sampling.sample d.settings (fun p => t.fileSize (d.root ++ "/" ++ p)) scanned
  return { declared, scanned, files }

/-- The stages of an analysis, as far as the time allows. A setting is read when its stage begins. -/
def stages (d : Discovery R) (t : FileTree) (deadline : Deadline R) (clock : Clock R) (p : Prepared) :
    Except Fault (Report R × List Warning) :=
  let scanned := p.scanned.length
  let analyzed := p.files.length
  deadline.unlessExpired clock (.stopped scanned analyzed 0, []) fun clock =>
    let (inv, skipped) := Source.inventory t d.root p.files
    deadline.unlessExpired clock (.stopped scanned analyzed inv.size, skipped) fun clock => do
      let options ← d.settings.clusteringOptions
      let (user, found, failed) := propose inv options d.strategies p.declared p.files
      let warnings := skipped ++ failed
      deadline.unlessExpired clock (.stopped scanned analyzed inv.size, warnings) fun clock => do
        let mergeLimit ← d.settings.mergeLimit (user ++ found).length
        let merged := Candidate.mergeAll (some inv) mergeLimit (user ++ found)
        deadline.unlessExpired clock (.stopped scanned analyzed inv.size, warnings) fun _ => do
          let confidence ← d.settings.confidence
          let selection : Selection R := ⟨Candidate.select inv confidence merged⟩
          return (selection.report inv scanned analyzed, warnings)

def run (d : Discovery R) (t : FileTree) : Except Fault (Report R × List Warning) := do
  let (started, clock) := d.clock.read
  let p ← d.prepare t
  let limit ← Deadline.limitOf (d.settings.value .timeout)
  d.stages t ⟨limit, started⟩ clock p

end Discovery

end Demarcation
