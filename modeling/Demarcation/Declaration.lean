import Demarcation.SortedSet
import Demarcation.Text.Path

namespace Demarcation

open Text

inductive Declaration.Kind where
  | struct
  | interface
  | function
deriving DecidableEq, Repr, Inhabited

def Declaration.Kind.name : Kind → String
  | .struct => "struct"
  | .interface => "interface"
  | .function => "function"

def Declaration.Kind.ofName? : String → Option Kind
  | "struct" => some .struct
  | "interface" => some .interface
  | "function" => some .function
  | _ => none

structure Member where
  name : String
  type : String
deriving DecidableEq, Repr, Inhabited

structure Declaration where
  kind : Declaration.Kind
  name : String
  file : String
  line : Int
  members : List Member := []
  calls : List String := []
  owner : Option String := none
  tables : List String := []
  references : List String := []
deriving DecidableEq, Repr, Inhabited

namespace Declaration

def directory (d : Declaration) : String := directoryOf d.file

def isFunction (d : Declaration) : Bool := d.kind == .function

def before (d e : Declaration) : Bool :=
  if d.file ≠ e.file then d.file < e.file
  else if d.line ≠ e.line then d.line < e.line
  else if d.name ≠ e.name then d.name < e.name
  else d.kind.name < e.kind.name

end Declaration

inductive Operation where
  | select
  | insert
  | update
  | delete
deriving DecidableEq, Repr, Inhabited

def Operation.name : Operation → String
  | .select => "select"
  | .insert => "insert"
  | .update => "update"
  | .delete => "delete"

def Operation.ofName? : String → Option Operation
  | "select" => some .select
  | "insert" => some .insert
  | "update" => some .update
  | "delete" => some .delete
  | _ => none

theorem Operation.ofName?_name (o : Operation) : ofName? o.name = some o := by cases o <;> rfl

theorem Operation.name_injective {o p : Operation} (h : o.name = p.name) : o = p := by
  have := ofName?_name o
  rw [h, ofName?_name] at this
  exact (Option.some.inj this).symm

structure Access where
  table : String
  operation : Operation
  file : String
  function : String
deriving DecidableEq, Repr, Inhabited

namespace Access

def key (a : Access) : List String := [a.file, a.function, a.table, a.operation.name]

theorem key_injective {a b : Access} (h : a.key = b.key) : a = b := by
  cases a; cases b
  simp only [key, List.cons.injEq, and_true] at h
  obtain ⟨rfl, rfl, rfl, ho⟩ := h
  rw [Operation.name_injective ho]

instance : LT Access := ⟨fun a b => a.key < b.key⟩

instance : DecidableLT Access := fun a b => inferInstanceAs (Decidable (a.key < b.key))

instance : Ordered Access where
  irrefl a := Ordered.irrefl a.key
  trans := Ordered.trans (α := List String)
  eq_of_not_lt h₁ h₂ := key_injective (Ordered.eq_of_not_lt h₁ h₂)

end Access

structure Extraction where
  structs : List Declaration := []
  interfaces : List Declaration := []
  functions : List Declaration := []
  accesses : List Access := []
deriving DecidableEq, Repr, Inhabited

namespace Extraction

def declarations (e : Extraction) : List Declaration := e.structs ++ e.interfaces ++ e.functions

def size (e : Extraction) : Nat := e.structs.length + e.interfaces.length + e.functions.length

def add (e : Extraction) (d : Declaration) : Extraction :=
  match d.kind with
  | .struct => { e with structs := e.structs ++ [d] }
  | .interface => { e with interfaces := e.interfaces ++ [d] }
  | .function => { e with functions := e.functions ++ [d] }

theorem foldl_add (e : Extraction) (ds : List Declaration) :
    ds.foldl add e = {
      structs := e.structs ++ ds.filter (·.kind == .struct)
      interfaces := e.interfaces ++ ds.filter (·.kind == .interface)
      functions := e.functions ++ ds.filter (·.kind == .function)
      accesses := e.accesses } := by
  induction ds generalizing e with
  | nil => simp
  | cons d ds ih =>
    rw [List.foldl_cons, ih, add]
    cases h : d.kind <;> simp [h]

end Extraction

def distinctNames (names : List String) : List String := (names.filter (· ≠ "")).eraseDups

end Demarcation
