import Demarcation.Inventory
import Demarcation.Scalar
import Demarcation.Text.Matching
import Demarcation.Text.Names

namespace Demarcation

open Text

namespace SortedSet

variable {α : Type} [LT α] [DecidableLT α] [Ordered α] [DecidableEq α]

def jaccard (R : Type) [Scalar R] (s t : SortedSet α) : R := Scalar.ratio (s ∩ t).size (s ∪ t).size

def overlapsHalf (s t : SortedSet α) : Bool := (s ∪ t).size < 2 * (s ∩ t).size

end SortedSet

section Similarity

variable (R : Type) [Scalar R]

def wordSimilarity (a b : String) : R :=
  (SortedSet.ofList (nameTokens a)).jaccard R (SortedSet.ofList (nameTokens b))

def nameSimilarity (a b : String) : R :=
  if a.isEmpty || b.isEmpty then Scalar.ofNat 0
  else
    let a := lowerFrom [] a.toList
    let b := lowerFrom [] b.toList
    Scalar.ofNat (2 * matched a b) / Scalar.ofNat (a.length + b.length)

end Similarity

namespace Declaration

def callsTo (d e : Declaration) : Bool := d.calls.any fun call => call == e.name || call.endsWith ("." ++ e.name)

def callsEither (d e : Declaration) : Bool := d.callsTo e || e.callsTo d

def refersEither (d e : Declaration) : Bool := d.references.contains e.name || e.references.contains d.name

end Declaration

inductive Tie where
  | reference
  | call
  | sameFile
  | sameDirectory
deriving DecidableEq, Repr

namespace Tie

def name : Tie → String
  | reference => "reference"
  | call => "call"
  | sameFile => "co_location"
  | sameDirectory => "directory"

variable (R : Type) [Scalar R]

def weight : Tie → R
  | reference => Scalar.decimal 8 1
  | call => Scalar.decimal 6 1
  | sameFile => Scalar.decimal 4 1
  | sameDirectory => Scalar.decimal 2 1

end Tie

section Strength

variable (R : Type) [Scalar R]

def strength (d e : Declaration) : R :=
  let zero : R := Scalar.ofNat 0
  let add (s : R) (holds : Bool) (t : Tie) : R := if holds then s + t.weight R else s
  let s := add zero (d.refersEither e) .reference
  let s := add s (d.callsEither e) .call
  let s := add s (d.file == e.file) .sameFile
  let s := add s (d.directory == e.directory) .sameDirectory
  let s := s + wordSimilarity R d.name e.name * Scalar.decimal 3 1
  Scalar.min s (Scalar.ofNat 1)

end Strength

def ties (d e : Declaration) : List Tie :=
  (if d.refersEither e then [.reference] else [])
    ++ (if d.callsEither e then [.call] else [])
    ++ (if d.file == e.file then [.sameFile] else if d.directory == e.directory then [.sameDirectory] else [])

structure DependencyFact where
  source : String
  target : String
  tie : Tie
deriving DecidableEq, Repr

def factsBetween (d e : Declaration) : List DependencyFact := (ties d e).map fun t => ⟨d.name, e.name, t⟩

def orderedPairs {α : Type} : List α → List (α × α)
  | [] => []
  | a :: as => as.map (a, ·) ++ orderedPairs as

namespace Inventory

variable (inv : Inventory)

def dependencyFacts : List DependencyFact :=
  (orderedPairs inv.declarations.toList).flatMap fun p => factsBetween p.1 p.2

def Declaration.usedNames (d : Declaration) : List String := d.references ++ d.calls.map (afterLast '.')

def usedNames (members : SortedSet Nat) (declared : SortedSet String) : SortedSet String :=
  (SortedSet.ofList ((inv.pick members.toList).flatMap Declaration.usedNames)).filter (· ∈ declared)

def addExternal (inside declared names : SortedSet String) (name : String) : SortedSet String :=
  if name ∉ inside ∧ name ∈ declared then names.insert name else names

def externalNames (members : SortedSet Nat) (declared : SortedSet String) : SortedSet String :=
  let group := inv.pick members.toList
  let add := addExternal (SortedSet.ofList (group.map (·.name))) declared
  group.foldl (fun names d => (d.calls.map (afterLast '.')).foldl add (d.references.foldl add names)) ∅

end Inventory

end Demarcation
