import Demarcation.Fault
import Demarcation.Language.PythonStatements
import Demarcation.Language.PythonVocabulary
import Demarcation.TableAccess

namespace Demarcation.Python

open Grammar Text

/-- What a text says: its characters as they are written, without values in braces. -/
def stringValue (t : Tree) : String :=
  match t.childrenOf .content with
  | [] => strippedQuotes t.text
  | parts => String.join (parts.map (·.text))
where
  strippedQuotes (s : String) : String :=
    let isQuote (c : Char) : Bool := c = '"' || c = '\''
    String.ofList ((s.toList.dropWhile isQuote).reverse.dropWhile isQuote).reverse

def typeNames (t : Tree) : List String :=
  ((Tree.visit (·.kind == .string) [t]).flatMap fun t =>
    match t.kind with
    | .identifier => [t.text]
    | .string => identifiersIn (stringValue t)
    | _ => []).filter (!builtinTypes.contains ·)

def baseName : Tree → String
  | .node .identifier _ source size _ => String.ofList (source.take size)
  | .node .attribute _ _ _ [_, name] => name.text
  | .node .subscript _ _ _ (value :: _) => baseName value
  | _ => ""

def attributeNames : Tree → List String
  | .node .identifier _ source size _ => [String.ofList (source.take size)]
  | .node .attribute _ _ _ [object, name] => attributeNames object ++ [name.text]
  | _ => []

/-- The name by which an expression is called; what a call gives is called by the name of that call. -/
def callName? : Tree → Option String
  | .node .identifier _ source size _ => some (String.ofList (source.take size))
  | .node .attribute line source size children =>
    some (".".intercalate (attributeNames (.node .attribute line source size children)))
  | .node .call _ _ _ (function :: _) => callName? function
  | _ => none

def calledName? : Tree → Option String
  | .node .call _ _ _ (function :: _) => (callName? function).filter (!·.isEmpty)
  | _ => none

def mappedTable? : Tree → Option String
  | .node .call _ _ _ [.node .attribute _ _ _ [_, method], arguments] => do
    let first ← arguments.first?
    if tableMethods.contains method.text && first.kind == .string then return stringValue first
    else if modelMethods.contains method.text && first.kind == .identifier then return snakeCase first.text
    else none
  | _ => none

def tablesAt (t : Tree) : List String :=
  if t.kind == .string then sqlTables (stringValue t) else (mappedTable? t).toList

def isDefinition (t : Tree) : Bool := t.kind == .function || t.kind == .classDefinition || t.kind == .decorated

def isDocumentation (t : Tree) : Bool := t.kind == .expressionStatement && t.first?.any (·.kind == .string)

def afterDocumentation (statements : List Tree) : List Tree :=
  match statements with
  | s :: ss => if isDocumentation s then ss else s :: ss
  | [] => []

def bodyNodes (body : Tree) : List Tree :=
  let isClosed (t : Tree) : Bool := isDefinition t || t.kind == .string
  (Tree.visit isClosed (afterDocumentation body.children)).filter (!isDefinition ·)

def undecorated (t : Tree) : Tree :=
  if t.kind == .decorated then
    (t.children.find? fun c => c.kind == .function || c.kind == .classDefinition).getD t
  else t

def parameterOf? (t : Tree) : Option (String × Option Tree) :=
  match t.kind with
  | .identifier => some (t.text, none)
  | .typedParameter | .defaultParameter => do
    let name ← t.first?
    if name.kind == .identifier then return (name.text, t.child? .type) else none
  | _ => none

def parametersOf (t : Tree) : List (String × Option Tree) :=
  ((t.child? .parameters).toList.flatMap (·.children)).filterMap parameterOf?
    |>.filter fun p => p.1 ≠ "self" && p.1 ≠ "cls"

def functionOf (file : String) (owner : Option String) (t : Tree) : Declaration :=
  let parameters := parametersOf t
  let nodes := (t.child? .block).toList.flatMap bodyNodes
  { kind := .function
    name := t.textOf .identifier
    file
    line := t.line
    members := parameters.map fun p => ⟨p.1, (p.2.map (·.text)).getD ""⟩
    calls := distinctNames (nodes.filterMap calledName?)
    owner
    tables := distinctNames (nodes.flatMap tablesAt)
    references := distinctNames ((owner.toList ++ parameters.flatMap (fun p => p.2.toList.flatMap typeNames)
      ++ (t.child? .result).toList.flatMap typeNames).filter (!builtinTypes.contains ·)) }

def declaredVariable? (t : Tree) : Option (Tree × Tree) := do
  if t.kind != .expressionStatement then none
  let assignment ← t.first?
  if assignment.kind != .assignment then none
  let target ← assignment.first?
  if target.kind != .identifier then none
  return (target, ← assignment.child? .type)

def signatureText (t : Tree) : String :=
  t.textOf .parameters ++ match t.child? .result with
    | some result => " -> " ++ result.text
    | none => ""

def baseNames (t : Tree) : List String :=
  (((t.child? .arguments).toList.flatMap (·.children)).filter (·.kind != .keywordArgument)).map baseName

def hasAbstractMetaclass (t : Tree) : Bool :=
  ((t.child? .arguments).toList.flatMap (·.childrenOf .keywordArgument)).any fun a =>
    match a.children with
    | [name, value] => name.text == "metaclass" && baseName value == abstractMetaclass
    | _ => false

/-- The declaration of a class: a struct, or an interface if it is abstract. Variables with a type are its members,
and so are the methods of an interface. -/
def classOf (file : String) (t : Tree) : Declaration :=
  let name := t.textOf .identifier
  let bases := baseNames t
  let abstract := hasAbstractMetaclass t || bases.any interfaceBases.contains
  let statements := (t.child? .block).toList.flatMap (·.children)
  let memberOf (s : Tree) : Option Member :=
    match declaredVariable? s with
    | some (target, type) => some ⟨target.text, type.text⟩
    | none =>
      let d := undecorated s
      if abstract && d.kind == .function then some ⟨d.textOf .identifier, signatureText d⟩ else none
  { kind := if abstract then .interface else .struct
    name
    file
    line := t.line
    members := statements.filterMap memberOf
    references := distinctNames ((bases.filter (!interfaceBases.contains ·)
      ++ (statements.filterMap declaredVariable?).flatMap fun v => typeNames v.2).filter
        fun r => r ≠ name && !builtinTypes.contains r) }

def declarationsOf (file : String) (t : Tree) : List Declaration :=
  let d := undecorated t
  if d.kind == .classDefinition then
    let c := classOf file d
    let methods := ((d.child? .block).toList.flatMap (·.children)).map undecorated |>.filter (·.kind == .function)
    c :: methods.map (functionOf file (some c.name))
  else if d.kind == .function then [functionOf file none d]
  else []

def declarations (file : String) (t : Tree) : Extraction :=
  let all := t.children.flatMap (declarationsOf file)
  let functions := all.filter (·.kind == .function)
  { structs := all.filter (·.kind == .struct)
    interfaces := all.filter (·.kind == .interface)
    functions
    accesses := functions.flatMap (·.accesses) }

def extract (text file : String) : Except Fault Extraction :=
  match parse? text with
  | some t => .ok (declarations file t)
  | none => .error .syntaxError

end Demarcation.Python
