import Demarcation.Language.Strict.Expressions
import Demarcation.Text.Utf8

namespace Demarcation.Python.Strict

open Grammar Grammar.Reader

variable (self : Rule → Reader Node)

def statementOf (children : List Node) : Node := .node .other children

/-! ### Simple statements -/

def augmentingMarks : List String := [
  "+=", "-=", "*=", "@=", "/=", "%=", "&=", "|=", "^=", "<<=", ">>=", "**=", "//="]

def assignment : Reader Node := do
  let first ← value self
  if ← isNext (isMark "=") then
    let rest ← many (do let _ ← mark "="; value self)
    let all := first :: rest
    if !rest.isEmpty && all.dropLast.all (·.isStarTarget) then return statementOf all else failure
  else if ← isNext (isMark ":") then
    let _ ← mark ":"
    let type ← self .expression
    let given ← optional (do let _ ← mark "="; value self)
    if first.shape.isPlace then return .node .typed (first :: type :: given.toList) else failure
  else
    match ← optional (oneOf augmentingMarks) with
    | some _ => if first.shape.isPlace then return statementOf [first, ← value self] else failure
    | none => return .node .expression [first]

def dottedName : Reader Unit := do
  let _ ← separated name (mark ".")

def ownName : Reader Unit := do
  let _ ← optional (do let _ ← word "as"; name)

def importStatement : Reader Node := do
  let _ ← word "import"
  let _ ← separated (do dottedName; ownName) (mark ",")
  return statementOf []

def importedNames : Reader Unit := do
  let entry : Reader Unit := do
    let _ ← name
    ownName
  if ← isNext (isMark "*") then let _ ← mark "*"
  else if ← isNext (isMark "(") then let _ ← between "(" ")" (listed entry (mark ","))
  else let _ ← separated entry (mark ",")

def importFromStatement : Reader Node := do
  let _ ← word "from"
  let dots ← many (oneOf [".", "..."])
  let source ← optional dottedName
  if dots.isEmpty && source.isNone then failure
  let _ ← word "import"
  importedNames
  return statementOf []

def deleteStatement : Reader Node := do
  let _ ← word "del"
  let ts ← listed (self .primary) (mark ",")
  if ts.all (·.isTarget false) then return statementOf ts else failure

def namingStatement : Reader Node := do
  let _ ← firstOf [word "global", word "nonlocal"]
  let _ ← separated name (mark ",")
  return statementOf []

def expressionsAfter (keyword : String) (separator : Reader Token) : Reader Node := do
  let _ ← word keyword
  let first ← self .expression
  return statementOf (first :: (← optional (do let _ ← separator; self .expression)).toList)

def simpleStatement : Reader Node := do
  match ← peek? with
  | none => failure
  | some t =>
    if t.kind != .word then assignment self
    else
      match t.text with
      | "return" => do
        let _ ← word "return"
        return statementOf (← optional (self .tuple)).toList
      | "import" => importStatement
      | "from" => importFromStatement
      | "raise" =>
        firstOf [expressionsAfter self "raise" (word "from"), do let _ ← word "raise"; return statementOf []]
      | "pass" | "break" | "continue" => do
        let _ ← ofKind .word
        return statementOf []
      | "del" => deleteStatement self
      | "assert" => expressionsAfter self "assert" (mark ",")
      | "global" | "nonlocal" => namingStatement
      | _ => assignment self

def simpleStatements : Reader (List Node) := do
  let ts ← listed (simpleStatement self) (mark ";")
  let _ ← ofKind .lineEnd
  return ts

/-! ### Compound statements -/

def body : Reader (List Node) := do
  let _ ← mark ":"
  return (← self .block).children

def bodyAfter (keyword : String) : Reader (List Node) := do
  let _ ← word keyword
  body self

def elseBody : Reader (List Node) := return (← optional (bodyAfter self "else")).getD []

def conditional : Nat → String → Reader Node
  | 0, _ => failure
  | fuel + 1, keyword => do
    let _ ← word keyword
    let condition ← named self
    let body ← body self
    let otherwise ← if ← isNext (isWord "elif") then (fun t => [t]) <$> conditional fuel "elif" else elseBody self
    return statementOf (condition :: body ++ otherwise)

def ifStatement : Reader Node := do conditional self ((← get).tokens.length + 1) "if"

def whileStatement : Reader Node := do
  let _ ← word "while"
  let condition ← named self
  let body ← body self
  return statementOf (condition :: body ++ (← elseBody self))

def forStatement : Reader Node := do
  let _ ← word "for"
  let target ← targets self
  let _ ← word "in"
  let source ← self .tuple
  let body ← body self
  return statementOf (target :: source :: body ++ (← elseBody self))

def withItem : Reader Node := do
  let resource ← self .expression
  return statementOf (resource :: (← optional (do let _ ← word "as"; target self)).toList)

def withItems : Reader (List Node) :=
  let colon (p : Reader (List Node)) : Reader (List Node) := do
    let ts ← p
    if ← isNext (isMark ":") then return ts else failure
  firstOf [
    colon (between "(" ")" (listed (withItem self) (mark ","))),
    colon (separated (withItem self) (mark ","))]

def withStatement : Reader Node := do
  let _ ← word "with"
  let items ← withItems self
  return statementOf (items ++ (← body self))

def handler : Reader (Node × Bool) := do
  let _ ← word "except"
  let star ← optional (mark "*")
  let type ← if star.isNone && (← isNext (isMark ":")) then pure none else some <$> self .expression
  if type.isSome then ownName
  return (statementOf (type.toList ++ (← body self)), star.isSome)

def tryStatement : Reader Node := do
  let body ← bodyAfter self "try"
  let handlers ← many (handler self)
  let otherwise ← if handlers.isEmpty then pure [] else elseBody self
  let final ← optional (bodyAfter self "finally")
  let mixed := handlers.any (·.2) && handlers.any (!·.2)
  if mixed || handlers.isEmpty && final.isNone then failure
  return statementOf (body ++ handlers.map (·.1) ++ otherwise ++ final.getD [])

/-! ### Matching -/

def signedNumber : Reader (Node × Bool) := do
  let sign ← optional (mark "-")
  let t ← ofKind .number
  match numberConstant? t.text with
  | some c =>
    let number := Node.leaf (.constant c)
    let imaginary := t.text.endsWith "j" || t.text.endsWith "J"
    return (if sign.isSome then .node (.unary "-") [number] else number, imaginary)
  | none => failure

def numberPattern : Reader Node := do
  let (first, imaginary) ← signedNumber
  if ← isNext (fun t => isMark "+" t || isMark "-" t) then
    let sign ← oneOf ["+", "-"]
    let (second, isImaginary) ← signedNumber
    if imaginary || !isImaginary || second.shape == .unary "-" then failure
    return .node (.binary sign.text) [first, second]
  else return first

def literalPattern : Reader Node := do
  match ← peek? with
  | none => failure
  | some t =>
    if t.kind == .string then strings self
    else if isWord "None" t then constant .none
    else if isWord "True" t then constant .true
    else if isWord "False" t then constant .false
    else numberPattern

def dottedValue : Reader Node := do
  let first ← name
  let rest ← many (do let _ ← mark "."; name)
  return rest.foldl attributeOf (.leaf (.name first))

def capture : Reader Unit := do
  let id ← name
  if id = "_" || (← isNext (fun t => isMark "." t || isMark "(" t || isMark "=" t)) then failure

def entryPattern : Reader Node := do
  match ← optional (mark "*") with
  | some _ =>
    firstOf [capture, do let _ ← word "_"]
    return .node .starred []
  | none => self .pattern

def patternList : Reader (List Node × Bool) := do
  let first ← entryPattern self
  let rest ← many (do let _ ← mark ","; entryPattern self)
  let ending ← optional (mark ",")
  return (first :: rest, !rest.isEmpty || ending.isSome)

def groupPattern : Reader Node := between "(" ")" do
  match ← optional (patternList self) with
  | none => return statementOf []
  | some ([t], false) => if t.isStarred then failure else return t
  | some (ts, _) => return statementOf ts

def listPattern : Reader Node := between "[" "]" do
  return statementOf (((← optional (patternList self)).map (·.1)).getD [])

def mappingEntry : Reader (Option (Node × Node)) := do
  match ← optional (mark "**") with
  | some _ =>
    capture
    return none
  | none =>
    let key ← if ← isNext isName then do
        let key ← dottedValue
        if key.shape.isPlace && !key.children.isEmpty then pure key else failure
      else literalPattern self
    let _ ← mark ":"
    return some (key, ← self .pattern)

def mappingPattern : Reader Node := between "\x7b" "\x7d" do
  let entries ← commaList (mappingEntry self)
  if entries.dropLast.any (·.isNone) then failure
  let pairs := entries.filterMap id
  return statementOf (pairs.map (·.1) ++ pairs.map (·.2))

def attributePattern : Reader (Node × Bool) := do
  if ← isNameBefore "=" then
    let _ ← name
    let _ ← mark "="
    return (← self .pattern, true)
  else return (← self .pattern, false)

def classPattern (cls : Node) : Reader Node := between "(" ")" do
  let ts ← commaList (attributePattern self)
  if (ts.dropWhile (!·.2)).any (!·.2) then failure
  return statementOf (cls :: ts.map (·.1))

def namePattern : Reader Node := do
  if ← isNext (isWord "_") then
    let _ ← name
    return statementOf []
  else
    let value ← dottedValue
    if ← isNext (isMark "(") then classPattern self value
    else if ← isNext (isMark "=") then failure
    else return if value.children.isEmpty then statementOf [] else statementOf [value]

def closedPattern : Reader Node := do
  match ← peek? with
  | none => failure
  | some t =>
    if isName t then namePattern self
    else if isMark "(" t then groupPattern self
    else if isMark "[" t then listPattern self
    else if isMark "\x7b" t then mappingPattern self
    else return statementOf [← literalPattern self]

def pattern : Reader Node := do
  let ts ← separated (closedPattern self) (mark "|")
  let t := match ts with
    | [t] => t
    | ts => statementOf ts
  match ← optional (word "as") with
  | some _ =>
    capture
    return statementOf [t]
  | none => return t

def patterns : Reader Node := do
  match ← patternList self with
  | ([t], false) => if t.isStarred then failure else return t
  | (ts, _) => return statementOf ts

def caseClause : Reader Node := do
  let _ ← word "case"
  let pattern ← patterns self
  let guard ← optional (do let _ ← word "if"; named self)
  return statementOf (pattern :: guard.toList ++ (← body self))

/-- A statement that chooses a case. Its words can also be names, so it must be complete to be one. -/
def matchStatement : Reader Node := do
  let _ ← word "match"
  let subject ← tupleOf (entry self)
  if subject.isStarred then failure
  let _ ← mark ":"
  let _ ← ofKind .lineEnd
  let _ ← ofKind .indent
  let first ← caseClause self
  let rest ← many (caseClause self)
  let _ ← ofKind .dedent
  return statementOf (subject :: first :: rest)

/-! ### Definitions -/

def nextLine : Reader Nat := return ((← peek?).map (·.line)).getD 0

def decorators : Reader (List Node) := many do
  let _ ← mark "@"
  let t ← named self
  let _ ← ofKind .lineEnd
  return t

def functionDefinition (decorators : List Node) : Reader Node := do
  let line ← nextLine
  let _ ← optional (word "async")
  let _ ← word "def"
  let id ← name
  let ps ← between "(" ")" (parameters self true)
  let result ← optional (do let _ ← mark "->"; self .expression)
  let body ← body self
  return .node (.function id line body.length result.isSome) (ps :: body ++ decorators ++ result.toList)

def classDefinition (decorators : List Node) : Reader Node := do
  let line ← nextLine
  let _ ← word "class"
  let id ← name
  let (bases, keywords) := (← optional (between "(" ")" (arguments self))).getD ([], [])
  let body ← body self
  return .node (.classDefinition id line bases.length keywords.length body.length)
    (bases ++ keywords ++ body ++ decorators)

def definition : Reader Node := do
  let ds ← decorators self
  if ← isNext (isWord "class") then classDefinition self ds else functionDefinition self ds

def asyncStatement : Reader Node := do
  match (← get).tokens with
  | _ :: t :: _ =>
    if isWord "def" t then functionDefinition self []
    else
      let _ ← word "async"
      if isWord "for" t then forStatement self else withStatement self
  | _ => failure

def compound (t : Token) : Reader Node :=
  if isMark "@" t then definition self
  else if t.kind != .word then failure
  else
    match t.text with
    | "if" => ifStatement self
    | "while" => whileStatement self
    | "for" => forStatement self
    | "with" => withStatement self
    | "try" => tryStatement self
    | "match" => matchStatement self
    | "def" | "class" => definition self
    | "async" => asyncStatement self
    | _ => failure

def statements : Reader (List Node) := do
  match ← peek? with
  | none => failure
  | some t =>
    match ← optional (compound self t) with
    | some s => return [s]
    | none => simpleStatements self

def block : Reader Node := do
  if ← isNext (·.kind == .lineEnd) then
    let _ ← ofKind .lineEnd
    let _ ← ofKind .indent
    let ts ← statements self
    let rest ← many (statements self)
    let _ ← ofKind .dedent
    return statementOf (ts ++ rest.flatten)
  else return statementOf (← simpleStatements self)

/-! ### Modules -/

def read : Nat → Rule → Reader Node
  | 0, _ => failure
  | depth + 1, rule =>
    let self := read depth
    match rule with
    | .expression => expression self
    | .disjunction => disjunction self
    | .inversion => inversion self
    | .operand => operation self leftOperators
    | .factor => factor self
    | .primary => primary self
    | .tuple => tupleOf (starExpression self)
    | .pattern => pattern self
    | .block => block self

def module (self : Rule → Reader Node) : Reader (List Node) := do
  let parts ← many (statements self)
  let _ ← ofKind .finish
  return parts.flatten

def parse? (text : String) : Option (List Node) := do
  let cs := Text.Utf8.normalizeBreaks text.toList
  (module (read (8 * cs.length + 64))).run () (← tokens? cs)

end Demarcation.Python.Strict
