import Demarcation.Boundary
import Demarcation.Candidate

namespace Demarcation

open Text

variable {R : Type} [Scalar R]

def sizeScore (R : Type) [Scalar R] (size : Int) : R :=
  if 5 ≤ size ∧ size ≤ 20 then Scalar.ofNat 1
  else if 3 ≤ size ∧ size ≤ 30 then Scalar.decimal 8 1
  else if 2 ≤ size ∧ size ≤ 50 then Scalar.decimal 6 1
  else Scalar.decimal 3 1

namespace Candidate

def databaseScore (c : Candidate R) : R :=
  if c.accesses.isEmpty then Scalar.decimal 5 1
  else if c.tables.size ≤ 3 then Scalar.ofNat 1
  else if c.tables.size ≤ 5 then Scalar.decimal 7 1
  else Scalar.decimal 4 1

def isolationScore (c : Candidate R) (others : List (Candidate R)) : R :=
  let overlaps : List R := others.map fun d => c.files.jaccard R d.files
  match overlaps with
  | [] => Scalar.ofNat 1 - Scalar.ofNat 0
  | o :: os => Scalar.ofNat 1 - os.foldl Scalar.max o

def score (c : Candidate R) (others : List (Candidate R)) : R :=
  Scalar.clamp (Scalar.decimal 30 2 * c.cohesion + Scalar.decimal 20 2 * sizeScore R c.size
    + Scalar.decimal 25 2 * c.databaseScore + Scalar.decimal 25 2 * c.isolationScore others)

def directories (c : Candidate R) : SortedSet String := SortedSet.ofList (c.files.toList.map directoryOf)

def reasoning (c : Candidate R) : List String :=
  (if c.declared then ["Declared in the user boundary file"] else [])
    ++ (if c.keywords.isEmpty then []
        else ["Semantic keywords: " ++ ", ".intercalate (c.keywords.toList.take 5)])
    ++ (if c.tables.isEmpty then [] else ["Database tables: " ++ ", ".intercalate c.tables.toList])
    ++ (if Scalar.lt (Scalar.decimal 7 1) c.cohesion then
          ["High cohesion score: " ++ Scalar.percent 1 c.cohesion ++ "%"] else [])
    ++ match c.directories.toList with
      | [directory] => [s!"All files live in directory '{directory}'"]
      | _ => []

def summary (c : Candidate R) : String :=
  if c.description.isEmpty then
    let words := ", ".intercalate (if c.keywords.isEmpty then [c.name] else c.keywords.toList.take 3)
    s!"Module grouping functionality related to {words} ({c.size} elements)"
  else c.description

def toBoundary (c : Candidate R) (inv : Inventory) (confidence : R) : Boundary R where
  name := c.name
  description := c.summary
  confidence := Scalar.share confidence
  files := c.files.toList
  structs := (c.namesOf inv .struct).toList
  interfaces := (c.namesOf inv .interface).toList
  functions := (c.namesOf inv .function).toList
  tables := c.tables.toList
  reasoning := c.reasoning
  keywords := c.keywords.toList
  dependencies := c.externals.toList
  declared := c.declared

abbrev Scored (R : Type) := Candidate R × R

def coveringOf (kept : List (Scored R)) (c : Candidate R) : List (Candidate R) :=
  (kept.map (·.1)).filter fun d => decide (d.files.size < c.files.size) && d.files.meets c.files

def isUmbrella (kept : List (Scored R)) (c : Candidate R) : Bool :=
  let covering := coveringOf kept c
  !c.declared && decide (2 ≤ covering.length) && decide (c.files ⊆ SortedSet.unions (covering.map (·.files)))

def dropUmbrellas (scored : List (Scored R)) : List (Scored R) :=
  (scored.mergeSort fun a b => a.1.files.size ≤ b.1.files.size).foldl
    (fun kept s => if isUmbrella kept s.1 then kept else kept ++ [s]) []

def withOthers {α : Type} (before : List α) : List α → List (α × List α)
  | [] => []
  | a :: as => (a, before ++ as) :: withOthers (before ++ [a]) as

def confident (threshold : R) (candidates : List (Candidate R)) : List (Scored R) :=
  (withOthers [] candidates).filterMap fun (c, others) =>
    if c.declared then some (c, Scalar.ofNat 1)
    else
      let confidence := Scalar.roundTo 6 (c.score others)
      if Scalar.lt confidence threshold then none else some (c, confidence)

def ranksBefore (a b : Boundary R) : Bool :=
  if Scalar.lt b.confidence a.confidence then true
  else if Scalar.lt a.confidence b.confidence then false
  else if a.name ≠ b.name then a.name < b.name
  else a.files < b.files

def select (inv : Inventory) (threshold : R) (candidates : List (Candidate R)) :
    List (Candidate R × Boundary R) :=
  let pairs := (dropUmbrellas (confident threshold candidates)).map fun (c, confidence) =>
    (c, c.toBoundary inv confidence)
  pairs.mergeSort fun p q => !ranksBefore q.2 p.2

end Candidate

def Metrics.measured (pairs : List (Candidate R × Boundary R)) : Metrics R :=
  let boundaries := pairs.map (·.2)
  let files (b : Boundary R) : SortedSet String := SortedSet.ofList b.files
  let overlaps := (orderedPairs boundaries).map fun p => (files p.1).jaccard R (files p.2)
  let single := boundaries.filter fun b => (SortedSet.ofList (b.files.map parentPath)).size == 1
  { overall := Scalar.mean (boundaries.map (·.confidence))
    semantic := Scalar.mean (pairs.map (·.1.cohesion))
    structural := Scalar.ofNat single.length / Scalar.ofNat boundaries.length
    clarity := Scalar.ofNat 1 - Scalar.mean overlaps
    database := Scalar.mean (pairs.map (·.1.databaseScore)) }

def Metrics.ofSelection (pairs : List (Candidate R × Boundary R)) : Metrics R :=
  if pairs.isEmpty then Metrics.zero else (Metrics.measured pairs).map Scalar.share

def orphanedFiles (inv : Inventory) (boundaries : List (Boundary R)) : List String :=
  let owned := boundaries.flatMap (·.files)
  ((SortedSet.ofList (inv.declarations.toList.map (·.file))).filter (!owned.contains ·)).toList

end Demarcation
