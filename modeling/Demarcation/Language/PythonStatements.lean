import Demarcation.Language.PythonExpressions

/-!
The statements of Python. A block belongs to the header before it as long as its lines are indented further; a line
that is indented further than its block still belongs to the block.
-/

namespace Demarcation.Python

open Grammar Grammar.Reader

variable (self : Rule → Reader Tree)

/-! ### Simple statements -/

def assignmentMarks : List String := [
  "+=", "-=", "*=", "/=", "@=", "//=", "%=", "**=", ">>=", "<<=", "&=", "^=", "|="]

def typed : Reader Tree := node .type do return [← self .type]

def rightHand : Nat → Reader (List Tree)
  | 0 => failure
  | fuel + 1 => do
    if ← isNext (isWord "yield") then return [← yielded self]
    else
      let (values, _) ← commas (self .expression)
      match ← peek? with
      | none => return values
      | some t =>
        if t.fresh then return values
        else if isMark ":" t && values.all isPattern then
          let _ ← mark ":"
          let type ← typed self
          match ← optional (do sameLine; mark "=") with
          | some _ => return values ++ type :: (← rightHand fuel)
          | none => return values ++ [type]
        else if t.kind == .mark && (t.text == "=" || assignmentMarks.contains t.text) && values.all isPattern then
          let _ ← take fun _ => true
          return values ++ (← rightHand fuel)
        else return values

def expressionStatement : Reader Tree := node .expressionStatement do
  let fuel := (← get).tokens.length
  if ← isNext (isWord "yield") then return [← yielded self]
  let start ← start
  let (values, ending) ← commas (self .expression)
  let target ← match values with
    | [] => failure
    | [v] => if ending then extend .other v start (return []) else pure v
    | v :: vs => extend .other v start (return vs)
  let patterns := values.all isPattern
  match ← peek? with
  | none => return values
  | some t =>
    if t.fresh then return values
    else if isMark ":" t && patterns then
      return [← extend .assignment target start do
        let _ ← mark ":"
        let type ← typed self
        match ← optional (do sameLine; mark "=") with
        | some _ => return type :: (← rightHand self fuel)
        | none => return [type]]
    else if t.kind == .mark && (t.text == "=" || assignmentMarks.contains t.text) && patterns then
      return [← extend .assignment target start do
        let _ ← take fun _ => true
        rightHand self fuel]
    else return values

def dottedName : Reader Unit := do
  let _ ← separated (take isName) (do sameLine; mark ".")

def importedName : Reader Tree := leaf .other do
  dottedName
  optional (do sameLine; let _ ← word "as"; take isName)

def importStatement : Reader Tree := node .other do
  let _ ← word "import"
  return (← commas importedName).1

def importOrigin : Reader Unit := do
  let points ← many (oneOf [".", "..."])
  match ← optional dottedName with
  | some _ => return
  | none => if points.isEmpty then failure

def importFromStatement : Reader Tree := node .other do
  let _ ← word "from"
  importOrigin
  let _ ← word "import"
  if ← isNext (isMark "*") then return [← leaf .other (mark "*")]
  else if ← isNext (isMark "(") then between "(" ")" (listed importedName (mark ","))
  else return (← commas importedName).1

def wordWithExpressions (w : String) : Reader (List Tree) := do
  let _ ← word w
  return (← optional (do sameLine; expressions self)).toList

def raiseStatement : Reader Tree := node .other do
  let raised ← wordWithExpressions self "raise"
  match ← optional (do sameLine; word "from") with
  | some _ => return raised ++ [← self .expression]
  | none => return raised

def printStatement : Reader Tree := node .other do
  let _ ← word "print"
  sameLine
  match ← optional (mark ">>") with
  | some _ =>
    let file ← self .expression
    let rest ← many (do sameLine; let _ ← mark ","; sameLine; self .expression)
    let _ ← optional (do sameLine; mark ",")
    return file :: rest
  | none => return (← commas (self .expression)).1

def execStatement : Reader Tree := node .other do
  let _ ← word "exec"
  sameLine
  let code ← if ← isNext (·.kind == .opening) then string self else identifier
  match ← optional (do sameLine; word "in") with
  | some _ => return code :: (← separated (self .expression) (do sameLine; mark ","))
  | none => return [code]

def typeStatement : Reader Tree := node .other do
  let _ ← word "type"
  sameLine
  let name ← self .type
  sameLine
  let _ ← mark "="
  return [name, ← self .type]

def names (w : String) : Reader Tree := node .other do
  let _ ← word w
  separated identifier (do sameLine; mark ",")

def complete (p : Reader Tree) : Reader Tree := do
  let t ← p
  if (← isNext (·.fresh)) || (← isNext (isMark ";")) then return t else failure

def simpleStatement : Reader Tree := do
  match ← peek? with
  | none => failure
  | some t =>
    if t.kind != .word then expressionStatement self
    else
      match t.text with
      | "import" => importStatement
      | "from" => importFromStatement
      | "assert" => node .other do
        let _ ← word "assert"
        separated (self .expression) (do sameLine; mark ",")
      | "return" => node .other (wordWithExpressions self "return")
      | "del" => node .other do
        let _ ← word "del"
        return [← expressions self]
      | "raise" => raiseStatement self
      | "pass" | "break" | "continue" => leaf .other (take fun _ => true)
      | "global" => names "global"
      | "nonlocal" => names "nonlocal"
      | "print" => firstOf [complete (expressionStatement self), printStatement self]
      | "exec" => firstOf [complete (expressionStatement self), execStatement self]
      | "type" => firstOf [complete (typeStatement self), expressionStatement self]
      | _ => expressionStatement self

def statementLine : Reader (List Tree) := line do
  let first ← simpleStatement self
  let rest ← many (do sameLine; let _ ← mark ";"; sameLine; simpleStatement self)
  let _ ← optional (do sameLine; mark ";")
  lineEnd
  return first :: rest

/-! ### Compound statements -/

def lines (indent : Nat) (p : Reader (List Tree)) : Reader (List Tree) :=
  let isDedent (t : Token) : Bool := t.fresh && decide (t.indent < indent)
  within ⟨true, false, indent⟩ do
    let parts ← many (do if ← isNext isDedent then failure else p)
    if ← isNext isDedent then return parts.flatten else failure

def suiteOf (p : Reader (List Tree)) (inLine : Reader (List Tree)) : Reader Tree := do
  let m ← mode
  match ← peek? with
  | none => failure
  | some t =>
    if !t.fresh then node .block inLine
    else if m.indent < t.indent then node .block (lines t.indent p)
    else return .node .block t.line [] 0 []

def statements : Reader (List Tree) := do
  match ← optional (self .statement) with
  | some t => return [t]
  | none => statementLine self

def suite : Reader Tree := suiteOf (statements self) (statementLine self)

def body : Reader Tree := do
  let _ ← mark ":"
  self .suite

def elseClause : Reader (List Tree) := do
  match ← optional (word "else") with
  | some _ => return [← body self]
  | none => return []

def ifStatement : Reader Tree := node .other do
  let _ ← word "if"
  let condition ← header (self .expression)
  let consequence ← body self
  let alternatives ← many do
    let _ ← word "elif"
    let condition ← header (self .expression)
    return [condition, ← body self]
  return condition :: consequence :: alternatives.flatten ++ (← elseClause self)

def forStatement : Reader Tree := node .other do
  let _ ← optional (word "async")
  let _ ← word "for"
  let head ← header do
    let targets ← targets self
    let _ ← word "in"
    return targets ++ [← expressions self]
  let body ← body self
  return head ++ body :: (← elseClause self)

def whileStatement : Reader Tree := node .other do
  let _ ← word "while"
  let condition ← header (self .expression)
  let body ← body self
  return condition :: body :: (← elseClause self)

def exceptClause (grouped : Bool) : Reader (List Tree) := do
  let w ← word "except"
  if grouped then
    let _ ← take fun t => isMark "*" t && t.start == w.stop
  else if ← isNext (fun t => isMark "*" t && t.start == w.stop) then failure
  let types ← header do
    if ← isNext (isMark ":") then (if grouped then failure else return [])
    else separated (self .expression) (mark ",")
  return types ++ [← body self]

def finallyClause : Reader (List Tree) := do
  let _ ← word "finally"
  return [← body self]

def tryStatement : Reader Tree := node .other do
  let _ ← word "try"
  let body ← body self
  let plain ← many (exceptClause self false)
  let handlers ← if plain.isEmpty then many (exceptClause self true) else pure plain
  if handlers.isEmpty then return body :: (← finallyClause self)
  else
    let otherwise ← elseClause self
    return body :: handlers.flatten ++ otherwise ++ ((← optional (finallyClause self)).getD [])

def withStatement : Reader Tree := node .other do
  let _ ← optional (word "async")
  let _ ← word "with"
  let items ← header do return (← commas (self .expression)).1
  return items ++ [← body self]

/-! ### Matching -/

def casePattern : Reader Tree := node .other do
  let keyword : Reader Tree := node .other do
    let name ← identifier
    let _ ← mark "="
    return [name, ← self .simpleCase]
  let first ← firstOf [keyword, self .simpleCase]
  let others ← many (do let _ ← mark "|"; self .simpleCase)
  let name ← optional (do let _ ← word "as"; identifier)
  return first :: others ++ name.toList

def casePatterns (opening closing : String) : Reader Tree :=
  node .other (between opening closing (commaList (self .casePattern)))

def caseNumber : Reader Tree := leaf .other do
  let _ ← optional (mark "-")
  let _ ← take (·.kind == .number)
  optional (do let _ ← oneOf ["+", "-"]; take (·.kind == .number))

def caseName : Reader Tree := node .other do
  let names ← separated identifier (mark ".")
  if ← isNext (isMark "(") then return names ++ [← casePatterns self "(" ")"] else return names

def casePair : Reader Tree := node .other do
  if ← isNext (isMark "**") then
    let _ ← mark "**"
    return [← identifier]
  else
    let key ← self .simpleCase
    let _ ← mark ":"
    return [key, ← self .casePattern]

/-- A pattern without alternatives. Names of classes in it are not called. -/
def simpleCase : Reader Tree := do
  match ← peek? with
  | none => failure
  | some t =>
    match t.kind with
    | .opening => strings self
    | .number => caseNumber
    | .word =>
      if ["True", "False", "None"].contains t.text then leaf .other (take fun _ => true) else caseName self
    | .mark =>
      if t.text = "-" then caseNumber
      else if t.text = "*" ∨ t.text = "**" then
        node .other do
          let _ ← take fun _ => true
          return [← identifier]
      else if t.text = "[" then casePatterns self "[" "]"
      else if t.text = "(" then casePatterns self "(" ")"
      else if t.text = "\x7b" then node .other (between "\x7b" "\x7d" (commaList (casePair self)))
      else failure
    | _ => failure

def caseClause : Reader (List Tree) := do
  let _ ← word "case"
  let head ← header do
    let patterns ← listed (self .casePattern) (mark ",")
    match ← optional (word "if") with
    | some _ => return patterns ++ [← self .expression]
    | none => return patterns
  return head ++ [← body self]

def matchStatement : Reader Tree := node .other do
  let _ ← word "match"
  sameLine
  let subjects ← header (listed (self .expression) (mark ","))
  let _ ← mark ":"
  return subjects ++ [← suiteOf (caseClause self) failure]

/-! ### Definitions -/

def typeParameters : Reader Tree := node .other (between "[" "]" (listed (node .other do
  let type ← self .type
  match ← optional (mark ":") with
  | some _ => return [type, ← self .type]
  | none => return [type]) (mark ",")))

def splatParameter : Reader Tree := node .splat do
  let _ ← oneOf ["*", "**"]
  return [← self .pattern]

def tupleParameter : Reader Tree := node .tuple (between "(" ")" (commaList (self .pattern)))

def parameter : Reader Tree := nodeOf do
  if ← isNext (isMark "/") then
    let _ ← mark "/"
    return (.other, [])
  let name ← firstOf [identifier, splatParameter self, tupleParameter self, leaf .other (mark "*")]
  let bare := name.kind == .other
  let type ← if bare then pure none else optional (do let _ ← mark ":"; typed self)
  let value ← if bare || name.kind == .splat then pure none else optional (do let _ ← mark "="; self .expression)
  if name.kind == .tuple && type.isSome then failure
  match type, value with
  | none, none => return (name.kind, name.children)
  | some type, none => return (.typedParameter, [name, type])
  | _, some value => return (.defaultParameter, name :: type.toList ++ [value])

def parameters : Reader Tree := node .parameters (between "(" ")" (commaList (parameter self)))

def functionDefinition : Reader Tree := node .function do
  let _ ← optional (word "async")
  let _ ← word "def"
  let head ← header do
    let name ← identifier
    let types ← if ← isNext (isMark "[") then some <$> typeParameters self else pure none
    let parameters ← parameters self
    let result ← optional do
      let _ ← mark "->"
      node .result do return [← self .type]
    return name :: types.toList ++ parameters :: result.toList
  return head ++ [← body self]

def classDefinition : Reader Tree := node .classDefinition do
  let _ ← word "class"
  let head ← header do
    let name ← identifier
    let types ← if ← isNext (isMark "[") then some <$> typeParameters self else pure none
    let arguments ← if ← isNext (isMark "(") then some <$> arguments self false else pure none
    return name :: types.toList ++ arguments.toList
  return head ++ [← body self]

def definition : Reader Tree := do
  if ← isNext (isWord "class") then classDefinition self else functionDefinition self

def decorator : Reader Tree := line do
  let _ ← mark "@"
  let e ← self .expression
  lineEnd
  return e

def decoratedDefinition : Reader Tree := node .decorated do
  let first ← decorator self
  let rest ← many (decorator self)
  return first :: rest ++ [← definition self]

def asyncStatement : Reader Tree := do
  match (← get).tokens with
  | _ :: t :: _ =>
    if isWord "def" t then functionDefinition self
    else if isWord "for" t then forStatement self
    else if isWord "with" t then withStatement self
    else failure
  | _ => failure

def compound : Reader Tree := do
  match ← peek? with
  | none => failure
  | some t =>
    if isMark "@" t then decoratedDefinition self
    else if t.kind != .word then failure
    else
      match t.text with
      | "if" => ifStatement self
      | "for" => forStatement self
      | "while" => whileStatement self
      | "try" => tryStatement self
      | "with" => withStatement self
      | "match" => matchStatement self
      | "def" => functionDefinition self
      | "class" => classDefinition self
      | "async" => asyncStatement self
      | _ => failure

/-! ### Modules -/

def module : Reader Tree := node .module do
  let parts ← many (statements self)
  if ← isNext (·.kind == .finish) then return parts.flatten else failure

def read : Nat → Rule → Reader Tree
  | 0, _ => failure
  | depth + 1, rule =>
    let self := read depth
    match rule with
    | .expression => expression self
    | .comparison => comparison self
    | .primary => primary self
    | .type => type self
    | .pattern => pattern self
    | .casePattern => casePattern self
    | .simpleCase => simpleCase self
    | .suite => suite self
    | .statement => compound self

def parse? (text : String) : Option Tree := do
  let tokens ← tokens? text.toList
  (module (read (8 * tokens.length + 8))).run ⟨true, false, 0⟩ tokens

end Demarcation.Python
