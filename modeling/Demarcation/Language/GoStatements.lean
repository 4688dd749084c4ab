import Demarcation.Language.GoExpressions

namespace Demarcation.Go

open Grammar Grammar.Reader

variable (self : Rule → Reader Tree)

def assignmentMarks : List String := [
  "=", "+=", "-=", "*=", "/=", "%=", "&=", "|=", "^=", "<<=", ">>=", "&^=", ":="]

def range : Reader (List Tree) := do
  let _ ← word "range"
  return [← self .expression]

def simpleStatement (ranges : Bool) : Reader Tree := do
  let start ← start
  match ← expressionList self with
  | [] => failure
  | first :: rest =>
    match ← optional (do sameLine; oneOf assignmentMarks) with
    | some sign =>
      let ranged := ranges && (sign.text == "=" || sign.text == ":=")
      let values ← if ranged && (← isNext (isWord "range")) then range self else expressionList self
      extend .other first start (return rest ++ values)
    | none =>
      if !rest.isEmpty then failure
      match ← optional (do sameLine; oneOf ["++", "--"]) with
      | some _ => extend .other first start (return [])
      | none => return first

def constSpec : Reader Tree := node .other do
  let _ ← separated (nameAs .name) (mark ",")
  let values ← optional do
    sameLine
    let type ← optional (self .type)
    let _ ← mark "="
    return type.toList ++ (← expressionList self)
  return values.getD []

def varSpec : Reader Tree := node .other do
  let _ ← separated (nameAs .name) (mark ",")
  match ← optional (self .type) with
  | none =>
    let _ ← mark "="
    expressionList self
  | some type =>
    let values ← optional (do sameLine; let _ ← mark "="; expressionList self)
    return type :: values.getD []

def typeSpec : Reader Tree := firstOf [
  node .typeSpec do
    let name ← nameAs .name
    let _ ← optional (typeParameters self)
    return [name, ← typed self],
  node .typeSpec do
    let name ← nameAs .name
    return [name, ← typed self],
  node .other do
    let _ ← nameAs .name
    let _ ← optional (typeParameters self)
    let _ ← mark "="
    return [← self .type]]

def specs (spec : Reader Tree) : Reader (List Tree) := do
  if ← isNext (isMark "(") then
    between "(" ")" .statement (many (do
      let s ← spec
      terminator
      return s))
  else return [← spec]

def declaration (t : Token) : Option (Reader Tree) :=
  match t.text with
  | "const" => some (node .other do let _ ← word "const"; specs (constSpec self))
  | "var" => some (node .other do let _ ← word "var"; specs (varSpec self))
  | "type" => some (node .typeDeclaration do let _ ← word "type"; specs (typeSpec self))
  | _ => none

def statements (stops : Token → Bool) : Reader (List Tree) :=
  terminated do
    if ← isNext stops then failure
    self .statement

def block : Reader Tree := node .block (between "\x7b" "\x7d" .statement (statements self fun _ => false))

def startsClause (t : Token) : Bool := isWord "case" t || isWord "default" t

def clause (guard : Reader (List Tree)) : Reader (List Tree) := do
  let guards ← if ← isNext (isWord "case") then
      let _ ← word "case"
      within .bracketed guard
    else
      let _ ← word "default"
      pure []
  let _ ← mark ":"
  return guards ++ (← statements self startsClause)

def clauses (guard : Reader (List Tree)) : Reader (List Tree) :=
  between "\x7b" "\x7d" .statement do return (← many (clause self guard)).flatten

def ifStatement : Nat → Reader Tree
  | 0 => failure
  | fuel + 1 => node .other do
    let _ ← word "if"
    let header ← within .header do
      let first ← simpleStatement self false
      match ← optional (mark ";") with
      | some _ => return [first, ← self .expression]
      | none => return [first]
    let consequence ← self .block
    let alternative ← optional do
      sameLine
      let _ ← word "else"
      if ← isNext (isWord "if") then ifStatement fuel else self .block
    return header ++ consequence :: alternative.toList

def forHeader : Reader (List Tree) := do
  if ← isNext (isMark "\x7b") then return []
  else if ← isNext (isWord "range") then range self
  else
    let first ← optional (simpleStatement self true)
    match ← optional (mark ";") with
    | none => return first.toList
    | some _ =>
      let condition ← optional (self .expression)
      let _ ← mark ";"
      let update ← optional (simpleStatement self false)
      return first.toList ++ condition.toList ++ update.toList

def forStatement : Reader Tree := node .other do
  let _ ← word "for"
  let header ← within .header (forHeader self)
  return header ++ [← self .block]

def asksType (header : List Tree) : Bool :=
  match header.getLast? with
  | some (.node .typeQuestion _ _ _ _) => true
  | some (.node .other _ _ _ children) => children.getLast?.any (·.kind == .typeQuestion)
  | _ => false

def switchStatement : Reader Tree := node .other do
  let _ ← word "switch"
  let header ← within .header do
    let first ← optional (simpleStatement self false)
    match ← optional (mark ";") with
    | none => return first.toList
    | some _ => return first.toList ++ (← optional (simpleStatement self false)).toList
  let guard := if asksType header then separated (self .type) (mark ",") else expressionList self
  return header ++ (← clauses self guard)

def selectStatement : Reader Tree := node .other do
  let _ ← word "select"
  clauses self do return [← simpleStatement self false]

def wordStatement (t : Token) : Option (Reader Tree) :=
  match t.text with
  | "return" => some (node .other do
    let _ ← word "return"
    return (← optional (do sameLine; expressionList self)).getD [])
  | "go" | "defer" => some (node .other do
    let _ ← token fun _ => true
    return [← self .expression])
  | "if" => some (do ifStatement self (← get).tokens.length)
  | "for" => some (forStatement self)
  | "switch" => some (switchStatement self)
  | "select" => some (selectStatement self)
  | "fallthrough" => some (leaf .other (word "fallthrough"))
  | "break" | "continue" => some (leaf .other do
    let _ ← token fun _ => true
    optional (do sameLine; nameAs .name))
  | "goto" => some (leaf .other do
    let _ ← word "goto"
    nameAs .name)
  | _ => none

def labelled : Reader Tree := node .other do
  let _ ← token isName
  let _ ← mark ":"
  return (← optional (self .statement)).toList

def statement : Reader Tree := do
  match ← peek? with
  | none => failure
  | some t =>
    if isMark "\x7b" t then self .block
    else if isMark ";" t then leaf .other (mark ";")
    else if t.kind == .word then
      match declaration self t, wordStatement self t with
      | some p, _ | none, some p => p
      | none, none => firstOf [labelled self, simpleStatement self false]
    else simpleStatement self false

/-! ### Files -/

def body? : Reader (Option Tree) := optional (do sameLine; self .block)

def functionDeclaration : Reader Tree := node .function do
  let _ ← word "func"
  let receiver ← if ← isNext (isMark "(") then some <$> node .receiver (return [← self .parameters]) else pure none
  let name ← wordAs .name
  let _ ← if receiver.isSome then pure none else optional (typeParameters self)
  let signature ← signature self
  return receiver.toList ++ name :: signature ++ (← body? self).toList

def importSpec : Reader Tree := leaf .other do
  let _ ← optional (firstOf [mark ".", token (·.kind == .word)])
  token (·.kind == .text)

def importDeclaration : Reader Tree := node .other do
  let _ ← word "import"
  if ← isNext (isMark "(") then between "(" ")" .statement (terminated importSpec) else return [← importSpec]

def packageClause : Reader Tree := leaf .other do
  let _ ← word "package"
  token (·.kind == .word)

def topDeclaration : Reader Tree := do
  match ← peek? with
  | none => failure
  | some t =>
    if isWord "func" t then functionDeclaration self
    else if isWord "import" t then importDeclaration
    else if isWord "package" t then packageClause
    else failure

def isFinish (t : Token) : Bool := t.kind == .finish

def file : Reader Tree := node .file do
  let items ← many (firstOf [
    do
      let d ← topDeclaration self
      if !(← isNext isFinish) then terminator
      return d,
    do
      if ← isNext (fun t => isWord "package" t || isWord "import" t) then failure
      let s ← self .statement
      terminator
      return s])
  let _ ← token isFinish
  return items

/-- The reader of one part of the grammar. Each part consists of smaller ones, so the depth is bounded. -/
def read : Nat → Rule → Reader Tree
  | 0, _ => failure
  | depth + 1, rule =>
    let self := read depth
    match rule with
    | .type => type self
    | .expression => expression self
    | .parameters => parameters self
    | .literalValue => literalValue self
    | .block => block self
    | .statement => statement self

def parse? (text : String) : Option Tree := do
  let tokens ← tokens? text.toList
  (file (read (4 * tokens.length + 8))).run .statement tokens

end Demarcation.Go
