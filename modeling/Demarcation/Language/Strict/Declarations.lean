import Demarcation.Fault
import Demarcation.Language.Strict.Printer
import Demarcation.Language.Strict.Statements
import Demarcation.TableAccess

namespace Demarcation.Python.Strict

open Text

/-! ### Parts of definitions -/

namespace Node

structure Function where
  name : String
  line : Nat
  parameters : Node
  body : List Node
  result : Option Node

def function? : Node → Option Function
  | node (.function name line body result) (parameters :: rest) =>
    some ⟨name, line, parameters, rest.take body, if result then rest.getLast? else none⟩
  | _ => none

structure Class where
  name : String
  line : Nat
  bases : List Node
  keywords : List Node
  body : List Node

def class? : Node → Option Class
  | node (.classDefinition name line bases keywords body) children =>
    some ⟨name, line, children.take bases, (children.drop bases).take keywords,
      (children.drop (bases + keywords)).take body⟩
  | _ => none

def declaredVariable? : Node → Option (String × Node)
  | node .typed (node (.name id) _ :: type :: _) => some (id, type)
  | _ => none

def singleParameters : Node → List Node
  | node (.arguments p) children =>
    let front := p.positional + p.plain
    children.take front ++ (children.drop (front + p.rest.toNat)).take p.named.length
  | _ => []

def parameter? : Node → Option (String × Option Node)
  | node (.parameter id) children => some (id, children.head?)
  | _ => none

end Node

/-! ### Names -/

def typeNames (t : Node) : List String :=
  ((Node.visit (fun _ => false) [t]).flatMap fun t =>
    match t.shape with
    | .name id | .attribute id _ => [id]
    | .constant (.string s _) => identifiersIn s
    | _ => []).filter (!builtinTypes.contains ·)

def baseName : Node → String
  | .node (.name id) _ => id
  | .node (.attribute id _) _ => id
  | .node (.subscript _) (value :: _) => baseName value
  | _ => ""

def attributeNames : Node → List String
  | .node (.name id) _ => [id]
  | .node (.attribute id _) [object] => attributeNames object ++ [id]
  | _ => []

def callName? : Node → Option String
  | .node (.name id) _ => some id
  | .node (.attribute id apart) children =>
    some (".".intercalate (attributeNames (.node (.attribute id apart) children)))
  | .node (.call _) (function :: _) => callName? function
  | _ => none

def calledName? : Node → Option String
  | .node (.call _) (function :: _) => (callName? function).filter (!·.isEmpty)
  | _ => none

def mappedTable? : Node → Option String
  | .node (.call positional) (.node (.attribute method _) _ :: first :: _) =>
    if positional = 0 then none
    else
      match first.shape with
      | .constant (.string s _) => if tableMethods.contains method then some s else none
      | .name id => if modelMethods.contains method then some (snakeCase id) else none
      | _ => none
  | _ => none

def tablesAt (t : Node) : List String :=
  match t.shape with
  | .constant (.string s _) => sqlTables s
  | _ => (mappedTable? t).toList

/-! ### Declarations -/

def isDefinition (t : Node) : Bool := t.function?.isSome || t.class?.isSome

def isDocumentation : Node → Bool
  | .node .expression [.node (.constant _) _] => true
  | _ => false

def afterDocumentation (statements : List Node) : List Node :=
  match statements with
  | s :: ss => if isDocumentation s then ss else s :: ss
  | [] => []

def bodyNodes (statements : List Node) : List Node :=
  (Node.visit isDefinition (afterDocumentation statements)).filter (!isDefinition ·)

def parametersIn (f : Node.Function) : List (String × Option Node) :=
  (f.parameters.singleParameters.filterMap Node.parameter?).filter fun p => p.1 ≠ "self" && p.1 ≠ "cls"

def functionOf (file : String) (owner : Option String) (f : Node.Function) : Declaration :=
  let parameters := parametersIn f
  let nodes := bodyNodes f.body
  { kind := .function
    name := f.name
    file
    line := f.line
    members := parameters.map fun p => ⟨p.1, (p.2.map Node.canonical).getD ""⟩
    calls := distinctNames (nodes.filterMap calledName?)
    owner
    tables := distinctNames (nodes.flatMap tablesAt)
    references := distinctNames ((owner.toList ++ parameters.flatMap (fun p => p.2.toList.flatMap typeNames)
      ++ f.result.toList.flatMap typeNames).filter (!builtinTypes.contains ·)) }

def signatureText (f : Node.Function) : String :=
  "(" ++ f.parameters.canonical ++ ")" ++ match f.result with
    | some t => " -> " ++ t.canonical
    | none => ""

def hasAbstractMetaclass (c : Node.Class) : Bool :=
  c.keywords.any fun k =>
    match k with
    | .node (.keyword (some "metaclass")) [t] => baseName t == abstractMetaclass
    | _ => false

def classOf (file : String) (c : Node.Class) : Declaration :=
  let bases := c.bases.map baseName
  let abstract := bases.any interfaceBases.contains || hasAbstractMetaclass c
  let memberOf (t : Node) : Option Member :=
    match t.declaredVariable? with
    | some (id, type) => some ⟨id, type.canonical⟩
    | none => if abstract then t.function?.map fun f => ⟨f.name, signatureText f⟩ else none
  { kind := if abstract then .interface else .struct
    name := c.name
    file
    line := c.line
    members := c.body.filterMap memberOf
    references := distinctNames ((bases.filter (fun b => !b.isEmpty && !interfaceBases.contains b)
      ++ (c.body.filterMap Node.declaredVariable?).flatMap fun v => typeNames v.2).filter
        fun r => r ≠ c.name && !builtinTypes.contains r) }

def declarationsOf (file : String) (t : Node) : List Declaration :=
  match t.class? with
  | some c => classOf file c :: (c.body.filterMap Node.function?).map (functionOf file (some c.name))
  | none => (t.function?.map (functionOf file none)).toList

def declarations (file : String) (statements : List Node) : Extraction :=
  let all := statements.flatMap (declarationsOf file)
  let functions := all.filter (·.kind == .function)
  { structs := all.filter (·.kind == .struct)
    interfaces := all.filter (·.kind == .interface)
    functions
    accesses := functions.flatMap (·.accesses) }

def extract (text file : String) : Except Fault Extraction :=
  if text.contains '\x00' then .error .nullCharacter
  else
    match parse? text with
    | some statements => .ok (declarations file statements)
    | none => .error .syntaxError

end Demarcation.Python.Strict
