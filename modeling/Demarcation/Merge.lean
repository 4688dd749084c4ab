import Demarcation.Absorption
import Demarcation.Candidate
import Demarcation.Cohesion

/-!
Consolidation of the candidates of all strategies. Two passes alternate until neither changes anything: one merges
candidates that share more than half of their files, the other merges candidates of one directory that use mostly
the same declared names.
-/

namespace Demarcation

open Text

namespace Candidate

variable {R : Type} [Scalar R]

def addScore (weight : R) (scores : List (String × R)) (keyword : String) : List (String × R) :=
  match scores with
  | [] => [(keyword, Scalar.ofNat 0 + weight)]
  | (k, s) :: rest => if k == keyword then (k, s + weight) :: rest else (k, s) :: addScore weight rest keyword

def keywordScores (group : List (Candidate R)) : List (String × R) :=
  group.foldl (fun scores c =>
    (c.keywords.toList.filter isMeaningful).foldl (addScore (Scalar.ofNat 1 + c.cohesion)) scores) []

/-- The name of a merged group: the first one that the user declared, else the meaningful keyword with the highest
score, the first in the alphabet of several, else the name of the first candidate. -/
def mergedName (first : Candidate R) (rest : List (Candidate R)) : String :=
  match (first :: rest).find? (·.declared) with
  | some c => c.name
  | none =>
    match keywordScores (first :: rest) with
    | [] => first.name
    | best :: others =>
      (others.foldl (fun b c =>
        if Scalar.lt b.2 c.2 || (!Scalar.lt c.2 b.2 && decide (c.1 < b.1)) then c else b) best).1

def combine (inv : Option Inventory) (first : Candidate R) (rest : List (Candidate R)) : Candidate R :=
  if rest.isEmpty then first
  else
    let group := first :: rest
    let members := SortedSet.unions (group.map (·.members))
    let user := group.find? (·.declared)
    let sources := SortedSet.ofList (group.flatMap fun c => (c.source.splitOn "+").filter (· ≠ ""))
    { name := mergedName first rest
      members
      files := SortedSet.unions (group.map (·.files))
      accesses := SortedSet.unions (group.map (·.accesses))
      keywords := SortedSet.unions (group.map (·.keywords))
      cohesion := Scalar.clamp (Scalar.mean (group.map (·.cohesion)))
      externals := match inv with
        | some inv => inv.externalNames members inv.declaredNames
        | none => SortedSet.unions (group.map (·.externals))
      source := "+".intercalate sources.toList
      declared := user.isSome
      description := (user.map (·.description)).getD "" }

def usedNames (c : Candidate R) (inv : Inventory) : SortedSet String := inv.usedNames c.members inv.declaredNames

def singleDirectory (c : Candidate R) : Option String :=
  match (SortedSet.ofList (c.files.toList.map parentPath)).toList with
  | [directory] => some directory
  | _ => none

def fileFeature (c : Candidate R) : Feature := ⟨some "", c.files⟩

def usageFeature (inv : Inventory) (c : Candidate R) : Feature := ⟨c.singleDirectory, c.usedNames inv⟩

def combineAt? (inv : Option Inventory) (candidates : Array (Candidate R)) (group : List Nat) :
    Option (Candidate R) :=
  match group.filterMap (candidates[·]?) with
  | [] => none
  | first :: rest => some (combine inv first rest)

def mergeGroups (inv : Option Inventory) (groups : Array Feature → List (List Nat))
    (feature : Candidate R → Feature) (candidates : List (Candidate R)) : List (Candidate R) × Bool :=
  let found := groups (candidates.map feature).toArray
  (found.filterMap (combineAt? inv candidates.toArray), found.any fun g => 1 < g.length)

def overlapPass (inv : Option Inventory) (candidates : List (Candidate R)) : List (Candidate R) × Bool :=
  mergeGroups inv Feature.groups fileFeature candidates

def couplingPass (inv : Inventory) (candidates : List (Candidate R)) : List (Candidate R) × Bool :=
  mergeGroups (some inv) Feature.groups (usageFeature inv) candidates

def mergeRound (inv : Option Inventory) (candidates : List (Candidate R)) : List (Candidate R) × Bool :=
  let (candidates, overlapped) := overlapPass inv candidates
  match inv with
  | none => (candidates, overlapped)
  | some inv =>
    let (candidates, coupled) := couplingPass inv candidates
    (candidates, overlapped || coupled)

/-- Rounds until one changes nothing. Every round that changes something leaves fewer candidates. -/
def mergeRounds (inv : Option Inventory) : Nat → List (Candidate R) → List (Candidate R)
  | 0, candidates => candidates
  | fuel + 1, candidates =>
    let (merged, changed) := mergeRound inv candidates
    if changed then mergeRounds inv fuel merged else merged

def mergeOrder (maxCandidates : Int) (candidates : List (Candidate R)) : List (Candidate R) :=
  let working := candidates.filter fun c => !c.members.isEmpty || !c.files.isEmpty
  if maxCandidates < working.length then working.mergeSort fun c d => d.files.size ≤ c.files.size else working

/-- Merges candidates until no two of them share more than half of their files and, given an inventory, no two of
one directory use mostly the same names. -/
def mergeAll (inv : Option Inventory) (maxCandidates : Int) (candidates : List (Candidate R)) :
    List (Candidate R) :=
  let working := mergeOrder maxCandidates candidates
  mergeRounds inv (working.length + 1) working

end Candidate

end Demarcation
