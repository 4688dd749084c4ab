import Demarcation.Declaration

/-!
Everything that was found in a code base. Declarations are addressed by their position in a fixed order, so what is
computed from them does not depend on the order in which the files were read.
-/

namespace Demarcation

/-- The declarations in order of file, line, name and sort; the table accesses; and the files, those without a
declaration included. -/
structure Inventory where
  declarations : Array Declaration := #[]
  accesses : SortedSet Access := ∅
  files : SortedSet String := ∅

namespace Inventory

/-- Puts equal declarations together and all of them in order. Ties keep the order of `declarations`; in a set of
declarations they stand in the order of its iteration, which nothing fixes. -/
def build (declarations : List Declaration) (accesses : List Access := []) (files : List String := []) :
    Inventory where
  declarations := (declarations.eraseDups.mergeSort fun d e => !e.before d).toArray
  accesses := SortedSet.ofList accesses
  files := SortedSet.ofList (files ++ declarations.map (·.file))

variable (inv : Inventory)

def size : Nat := inv.declarations.size

def pick (positions : List Nat) : List Declaration := positions.filterMap (inv.declarations[·]?)

def positions : List Nat := List.range inv.size

def positionsOf (kind : Declaration.Kind) : List Nat :=
  inv.positions.filter fun i => inv.declarations[i]?.any (·.kind == kind)

def filesOf (members : SortedSet Nat) : SortedSet String :=
  SortedSet.ofList ((inv.pick members.toList).map (·.file))

def declaredNames : SortedSet String := SortedSet.ofList (inv.declarations.toList.map (·.name))

end Inventory

end Demarcation
