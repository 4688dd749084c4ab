import Demarcation.Fault
import Demarcation.Language.GoStatements
import Demarcation.TableAccess

namespace Demarcation.Go

open Grammar Text

def builtinFunctions : List String := [
  "append", "cap", "clear", "close", "complex", "copy", "delete", "imag", "len", "make", "max", "min", "new", "panic",
  "print", "println", "real", "recover"]

def builtinTypes : List String := [
  "any", "bool", "byte", "comparable", "complex64", "complex128", "error", "float32", "float64", "int", "int8",
  "int16", "int32", "int64", "rune", "string", "uint", "uint8", "uint16", "uint32", "uint64", "uintptr"]

def typeNames (ts : List Tree) : List String :=
  distinctNames (((Tree.visit (fun _ => false) ts).filter (·.kind == .typeName)).map (·.text)
    |>.filter (!builtinTypes.contains ·))

/-- The name by which an expression is called. Of a name that is selected from anything but names, only the last
part counts. -/
def callName? : Tree → Option String
  | .node .identifier _ source size _ => some (String.ofList (source.take size))
  | .node .selector _ _ _ [operand, field] =>
    match callName? operand with
    | some base => if base.isEmpty then some field.text else some (base ++ "." ++ field.text)
    | none => some field.text
  | _ => none

def calledName? (t : Tree) : Option String :=
  match t with
  | .node .call _ _ _ (function :: _) =>
    (callName? function).filter fun n => !n.isEmpty && !builtinFunctions.contains n && !builtinTypes.contains n
  | _ => none

def calledNames (t : Tree) : List String :=
  distinctNames ((Tree.visit (fun _ => false) [t]).filterMap calledName?)

def typeText (t : Tree) : String := t.textOf .type

def embeddedName (type : String) : String :=
  let stem := String.ofList (type.toList.takeWhile (· ≠ '['))
  String.ofList ((afterLast '.' stem).toList.dropWhile (· = '*'))

def membersOf (t : Tree) (type : String) (unnamed : String) : List Member :=
  match t.childrenOf .name with
  | [] => [⟨unnamed, type⟩]
  | names => names.map fun n => ⟨n.text, type⟩

def fieldMembers (t : Tree) : List Member := membersOf t (typeText t) (embeddedName (typeText t))

def parameterMembers (t : Tree) : List Member :=
  membersOf t (if t.kind == .variadic then "..." ++ typeText t else typeText t) ""

def methodMember (t : Tree) : Member :=
  let parameters := t.textOf .parameters
  ⟨t.textOf .name, match t.child? .result with
    | some result => parameters ++ " " ++ result.text
    | none => parameters⟩

def typeDeclaration? (file : String) (t : Tree) : Option Declaration := do
  let name := t.textOf .name
  let type ← (← t.child? .type).first?
  let (kind, members) ← match type.kind with
    | .structType => some (Declaration.Kind.struct, (type.childrenOf .field).flatMap fieldMembers)
    | .interfaceType => some (.interface, (type.childrenOf .method).map methodMember)
    | _ => none
  return {
    kind, name, file, members
    line := t.line
    references := (typeNames [type]).filter (· ≠ name) }

def functionDeclarationOf (file : String) (t : Tree) : Declaration :=
  let owner := ((t.child? .receiver).map fun r => typeNames [r]).bind (·.head?)
  let parameters := (t.child? .parameters).toList
  let body := t.child? .block
  { kind := .function
    name := t.textOf .name
    file
    line := t.line
    members := parameters.flatMap fun ps => ps.children.flatMap parameterMembers
    calls := (body.map calledNames).getD []
    owner
    tables := (body.map fun b => sqlTables b.text).getD []
    references := distinctNames (owner.toList ++ typeNames parameters ++ typeNames (t.child? .result).toList) }

def collect (file : String) (e : Extraction) (t : Tree) : Extraction :=
  match t.kind with
  | .typeDeclaration => ((t.childrenOf .typeSpec).filterMap (typeDeclaration? file)).foldl .add e
  | .function =>
    let d := functionDeclarationOf file t
    { e.add d with accesses := e.accesses ++ d.accesses }
  | _ => e

def declarations (file : String) (t : Tree) : Extraction := t.children.foldl (collect file) {}

def typesAmong (file : String) (ts : List Tree) : List Declaration :=
  (ts.filter (·.kind == .typeDeclaration)).flatMap fun t => (t.childrenOf .typeSpec).filterMap (typeDeclaration? file)

def functionsAmong (file : String) (ts : List Tree) : List Declaration :=
  (ts.filter (·.kind == .function)).map (functionDeclarationOf file)

theorem kind_of_typeDeclaration? {file : String} {t : Tree} {d : Declaration} (h : typeDeclaration? file t = some d) :
    d.kind = .struct ∨ d.kind = .interface := by
  obtain ⟨_, -, h⟩ := Option.bind_eq_some_iff.1 h
  obtain ⟨type, -, h⟩ := Option.bind_eq_some_iff.1 h
  dsimp only at h
  split at h
  · exact .inl (Option.some.inj h ▸ rfl)
  · exact .inr (Option.some.inj h ▸ rfl)
  · cases h

theorem foldl_collect (file : String) (e : Extraction) (ts : List Tree) :
    ts.foldl (collect file) e = {
      structs := e.structs ++ (typesAmong file ts).filter (·.kind == .struct)
      interfaces := e.interfaces ++ (typesAmong file ts).filter (·.kind == .interface)
      functions := e.functions ++ functionsAmong file ts
      accesses := e.accesses ++ (functionsAmong file ts).flatMap (·.accesses) } := by
  induction ts generalizing e with
  | nil => simp [typesAmong, functionsAmong]
  | cons t ts ih =>
    rw [List.foldl_cons, ih, collect]
    split
    · next hkind =>
      have hnone : ((t.childrenOf .typeSpec).filterMap (typeDeclaration? file)).filter (·.kind == .function) = [] := by
        rw [List.filter_eq_nil_iff]
        intro d hd
        obtain ⟨u, -, hu⟩ := List.mem_filterMap.1 hd
        rcases kind_of_typeDeclaration? hu with h | h <;> simp [h]
      rw [Extraction.foldl_add, hnone]
      simp [typesAmong, functionsAmong, hkind]
    · next hkind => simp [typesAmong, functionsAmong, hkind, Extraction.add, functionDeclarationOf]
    · next htype hfunction =>
      have htype : (t.kind == .typeDeclaration) = false := beq_false_of_ne htype
      have hfunction : (t.kind == .function) = false := beq_false_of_ne hfunction
      simp [typesAmong, functionsAmong, htype, hfunction]

theorem declarations_eq (file : String) (t : Tree) :
    declarations file t = {
      structs := (typesAmong file t.children).filter (·.kind == .struct)
      interfaces := (typesAmong file t.children).filter (·.kind == .interface)
      functions := (t.childrenOf .function).map (functionDeclarationOf file)
      accesses := ((t.childrenOf .function).map (functionDeclarationOf file)).flatMap (·.accesses) } := by
  rw [declarations, foldl_collect]
  rfl

def extract (text file : String) : Except Fault Extraction :=
  match parse? text with
  | some t => .ok (declarations file t)
  | none => .error .syntaxError

end Demarcation.Go
