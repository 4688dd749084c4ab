import Demarcation.Boundary
import Demarcation.Dependency

namespace Demarcation

variable {R : Type} [Scalar R]

namespace Boundary

def fileSet (b : Boundary R) : SortedSet String := SortedSet.ofList b.files

def keywordSet (b : Boundary R) : SortedSet String := SortedSet.ofList b.keywords

def dependencySet (b : Boundary R) : SortedSet String := SortedSet.ofList b.dependencies

def declarationSet (b : Boundary R) : SortedSet String := SortedSet.ofList b.declarations

def adviseMerge (a b : Boundary R) : List Recommendation :=
  let files := a.fileSet.jaccard R b.fileSet
  let keywords := a.keywordSet.jaccard R b.keywordSet
  if Scalar.lt (Scalar.decimal 3 1) files || Scalar.lt (Scalar.decimal 7 1) keywords then
    [{ kind := .merge
       boundaries := [a.name, b.name]
       reason := s!"High overlap between boundaries ({Scalar.percent 0 files}% files, "
         ++ s!"{Scalar.percent 0 keywords}% keywords)"
       benefit := "Reduced coupling and clearer module ownership"
       difficulty := .medium }]
  else []

def adviseRename (a b : Boundary R) : List Recommendation :=
  if a.name = b.name then
    [{ kind := .rename
       boundaries := [a.name, b.name]
       reason := s!"Two boundaries are both named '{a.name}'"
       benefit := "Unambiguous module names"
       difficulty := .low }]
  else []

def adviseSplit (b : Boundary R) : List Recommendation :=
  if 20 < b.files.length ∨ 5 < b.keywords.length then
    [{ kind := .split
       boundaries := [b.name]
       reason := s!"Large boundary with {b.files.length} files and {b.keywords.length} semantic concepts"
       benefit := "Better separation of concerns and maintainability"
       difficulty := .high }]
  else []

/-- The names of the boundaries that list a file, in order; a boundary that lists it twice counts twice. -/
def ownersOf (boundaries : List (Boundary R)) (file : String) : List String :=
  boundaries.flatMap fun b => (b.files.filter (· == file)).map fun _ => b.name

def groupFiles (groups : List (List String × List String)) (owners : List String) (file : String) :
    List (List String × List String) :=
  match groups with
  | [] => [(owners, [file])]
  | (o, files) :: rest =>
    if o == owners then (o, files ++ [file]) :: rest else (o, files) :: groupFiles rest owners file

def sharedFiles (boundaries : List (Boundary R)) : List (List String × List String) :=
  let files := SortedSet.ofList (boundaries.flatMap (·.files))
  files.toList.foldl (fun groups file =>
    let owners := ownersOf boundaries file
    if 1 < owners.length then groupFiles groups owners file else groups) []

def adviseMove (owners files : List String) : Recommendation :=
  let listed := ", ".intercalate (files.take 3) ++ (if 3 < files.length then " ..." else "")
  { kind := .moveFiles
    boundaries := owners
    reason := s!"{files.length} file(s) belong to several boundaries: {listed}"
    benefit := "Each file owned by exactly one module"
    difficulty := .low }

def recommendations (boundaries : List (Boundary R)) : List Recommendation :=
  let pairs := orderedPairs boundaries
  pairs.flatMap (fun p => adviseMerge p.1 p.2)
    ++ pairs.flatMap (fun p => adviseRename p.1 p.2)
    ++ boundaries.flatMap adviseSplit
    ++ (sharedFiles boundaries).map fun g => adviseMove g.1 g.2

def crossing (a b : Boundary R) : SortedSet String :=
  (a.dependencySet ∩ b.declarationSet) ∪ (b.dependencySet ∩ a.declarationSet)

def overlapsOf (a b : Boundary R) : List (Overlap R) :=
  let files := a.fileSet.jaccard R b.fileSet
  let keywords := a.keywordSet.jaccard R b.keywordSet
  let crossing := a.crossing b
  (if Scalar.lt (Scalar.ofNat 0) files then
    [⟨a.name, b.name, .file, Scalar.share files, "Assign the shared files to a single boundary"⟩] else [])
  ++ (if Scalar.lt (Scalar.decimal 5 1) keywords then
    [⟨a.name, b.name, .semantic, Scalar.share keywords, "Clarify responsibilities or merge the boundaries"⟩] else [])
  ++ (if crossing.isEmpty then [] else
    [⟨a.name, b.name, .dependency,
      Scalar.share (Scalar.ofNat crossing.size / Scalar.ofNat (a.dependencySet ∪ b.dependencySet).size),
      "Introduce an explicit interface for " ++ ", ".intercalate (crossing.toList.take 3)⟩])

def overlaps (boundaries : List (Boundary R)) : List (Overlap R) :=
  (orderedPairs boundaries).flatMap fun p => overlapsOf p.1 p.2

end Boundary

end Demarcation
