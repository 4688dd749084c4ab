import Demarcation.Dependency
import Demarcation.Stride

namespace Demarcation

open Text

def genericWords : List String := [
  "type", "model", "data", "info", "item", "base", "common", "util", "utils", "helper", "helpers", "impl",
  "interface", "struct", "func", "main", "init", "test", "mock", "handle", "handler", "service", "repository",
  "repo", "manager", "get", "set", "new", "create", "update", "delete", "list"]

def isMeaningful (word : String) : Bool := 3 < word.length && !genericWords.contains word

def groupKeywords (group : List Declaration) : SortedSet String :=
  SortedSet.ofList (group.flatMap fun d => nameTokens d.name)

def countWord (counts : List (String × Nat)) (word : String) : List (String × Nat) :=
  match counts with
  | [] => [(word, 1)]
  | (w, n) :: rest => if w == word then (w, n + 1) :: rest else (w, n) :: countWord rest word

def groupName (group : List Declaration) (fallback : String) : String :=
  let counts := ((group.flatMap fun d => nameTokens d.name).filter isMeaningful).foldl countWord []
  match counts with
  | [] => fallback
  | best :: rest =>
    (rest.foldl (fun b c => if b.2 < c.2 || (b.2 == c.2 && decide (c.1 < b.1)) then c else b) best).1

def cohesionSample : Nat := 100

section

variable (R : Type) [Scalar R]

def meanOverPairs (measure : Declaration → Declaration → R) (group : List Declaration) : R :=
  let sample := spread cohesionSample group
  if sample.length ≤ 1 then Scalar.ofNat 1
  else Scalar.mean ((orderedPairs sample).map fun p => measure p.1 p.2)

def nameCohesion (group : List Declaration) : R :=
  meanOverPairs R (fun d e => wordSimilarity R d.name e.name) group

/-- How close two declarations are in meaning: fully if they refer to a common name, else by the similarity of their
names if it exceeds one half. -/
def affinity (d e : Declaration) : R :=
  if d.references.any (e.references.contains ·) then Scalar.ofNat 1
  else
    let similarity := nameSimilarity R d.name e.name
    if Scalar.lt (Scalar.decimal 5 1) similarity then similarity else Scalar.ofNat 0

def semanticCohesion (group : List Declaration) : R := meanOverPairs R (affinity R) group

end

end Demarcation
