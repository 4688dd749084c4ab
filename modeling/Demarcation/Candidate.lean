import Demarcation.Dependency

namespace Demarcation

structure Candidate (R : Type) where
  name : String
  members : SortedSet Nat := ∅
  files : SortedSet String := ∅
  accesses : SortedSet Access := ∅
  keywords : SortedSet String := ∅
  cohesion : R
  /-- The declared names that members use and do not declare. -/
  externals : SortedSet String := ∅
  /-- The names of the strategies that found the group, joined by plus signs. -/
  source : String := ""
  declared : Bool := false
  description : String := ""

namespace Candidate

variable {R : Type}

instance [Inhabited R] : Inhabited (Candidate R) := ⟨{ name := "", cohesion := default }⟩

def size (c : Candidate R) : Nat := c.members.size

def tables (c : Candidate R) : SortedSet String := SortedSet.ofList (c.accesses.toList.map (·.table))

def declarations (c : Candidate R) (inv : Inventory) : List Declaration := inv.pick c.members.toList

def namesOf (c : Candidate R) (inv : Inventory) (kind : Declaration.Kind) : SortedSet String :=
  SortedSet.ofList (((c.declarations inv).filter (·.kind == kind)).map (·.name))

def isWithin (c : Candidate R) (inv : Inventory) : Bool := c.members.toList.all (· < inv.size)

def bounded [Scalar R] (c : Candidate R) : Candidate R := { c with cohesion := Scalar.clamp c.cohesion }

def covering (c : Candidate R) (inv : Inventory) : Candidate R := { c with files := c.files ∪ inv.filesOf c.members }

def ofMembers [Scalar R] (inv : Inventory) (source name : String) (members : List Nat) (keywords : SortedSet String)
    (cohesion : R) : Candidate R :=
  let members := SortedSet.ofList members
  let c : Candidate R := {
    name, members, keywords, cohesion, source, externals := inv.externalNames members inv.declaredNames }
  c.bounded.covering inv

end Candidate

end Demarcation
