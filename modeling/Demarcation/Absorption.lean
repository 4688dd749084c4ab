import Demarcation.Dependency

/-!
Greedy grouping of positions by common names. Each free position in turn becomes the seed of a group and absorbs
later free positions that have more than half of all names in common with the group. Only positions that share a
name with the group are looked at, in ascending order. `plainGroups` looks at every later position instead.
-/

namespace Demarcation

/-- What a position is compared by: its names, and an area outside of which it is compared with nothing. -/
structure Feature where
  area : Option String
  names : SortedSet String

/-- A group while it grows: the union of the names of its positions, the positions absorbed so far, those that were
ever put in the queue, and the queue in ascending order. -/
structure Growth where
  names : SortedSet String
  absorbed : List Nat
  seen : List Nat
  queue : List Nat

namespace Feature

variable (features : Array Feature)

def carriers (area name : String) : List Nat :=
  (List.range features.size).filter fun j => features[j]?.any fun f => f.area == some area && decide (name ∈ f.names)

def enqueue (seed : Nat) (g : Growth) (j : Nat) : Growth :=
  if seed < j ∧ j ∉ g.seen then { g with seen := j :: g.seen, queue := SortedSet.place j g.queue } else g

def enqueueCarriers (area : String) (seed : Nat) (g : Growth) (names : List String) : Growth :=
  names.foldl (fun g name => (carriers features area name).foldl (enqueue seed) g) g

def grow (area : String) (seed : Nat) (taken : List Nat) : Nat → Growth → Growth
  | 0, g => g
  | fuel + 1, g =>
    match g.queue with
    | [] => g
    | j :: queue =>
      let g := { g with queue }
      match features[j]? with
      | none => grow area seed taken fuel g
      | some other =>
        if j ∉ taken ∧ g.names.overlapsHalf other.names then
          let added := other.names \ g.names
          let g := { g with names := g.names ∪ other.names, absorbed := g.absorbed ++ [j] }
          grow area seed taken fuel (enqueueCarriers features area seed g added.toList)
        else grow area seed taken fuel g

def absorbedBy (seed : Nat) (taken : List Nat) : List Nat :=
  match features[seed]? with
  | none => []
  | some f =>
    match f.area with
    | none => []
    | some area =>
      let start := enqueueCarriers features area seed ⟨f.names, [], [seed], []⟩ f.names.toList
      (grow features area seed taken features.size start).absorbed

def groupsFrom (absorbedBy : Nat → List Nat → List Nat) : List Nat → List Nat → List (List Nat)
  | [], _ => []
  | i :: is, taken =>
    if i ∈ taken then groupsFrom absorbedBy is taken
    else
      let absorbed := absorbedBy i taken
      (i :: absorbed) :: groupsFrom absorbedBy is (taken ++ absorbed)

def groups : List (List Nat) := groupsFrom (absorbedBy features) (List.range features.size) []

def plainScan (area : String) (taken : List Nat) : SortedSet String → List Nat → List Nat
  | _, [] => []
  | names, j :: js =>
    match features[j]? with
    | none => plainScan area taken names js
    | some other =>
      if j ∉ taken ∧ other.area = some area ∧ names.overlapsHalf other.names then
        j :: plainScan area taken (names ∪ other.names) js
      else plainScan area taken names js

def plainAbsorbedBy (seed : Nat) (taken : List Nat) : List Nat :=
  match features[seed]? with
  | none => []
  | some f =>
    match f.area with
    | none => []
    | some area => plainScan features area taken f.names (List.range' (seed + 1) (features.size - (seed + 1)))

def plainGroups : List (List Nat) := groupsFrom (plainAbsorbedBy features) (List.range features.size) []

end Feature

end Demarcation
