import Demarcation.Language.GoTypes

namespace Demarcation.Go

open Grammar Grammar.Reader

variable (self : Rule → Reader Tree)

def expressionList : Reader (List Tree) := separated (self .expression) (mark ",")

def prefixMarks : List String := ["+", "-", "!", "^", "*", "&", "<-"]

def operatorMarks : List String := [
  "*", "/", "%", "<<", ">>", "&", "&^", "+", "-", "|", "^", "==", "!=", "<", "<=", ">", ">=", "&&", "||", "<-"]

def oneOf (marks : List String) : Reader Token := token fun t => t.kind == .mark && marks.contains t.text

def arguments : Reader (List Tree) := between "(" ")" .bracketed (commaList do
  let argument ← self .expression
  let _ ← optional (mark "...")
  return argument)

def typeFirstArguments : Reader (List Tree) := between "(" ")" .bracketed do
  match ← optional (self .type) with
  | none => return []
  | some type =>
    let rest ← many (do let _ ← mark ","; self .expression)
    let _ ← optional (mark ",")
    return type :: rest

def entry : Reader (List Tree) := do
  let part : Reader Tree := do
    if ← isNext (isMark "\x7b") then self .literalValue else self .expression
  let first ← part
  match ← optional (do let _ ← mark ":"; part) with
  | some value => return [first, value]
  | none => return [first]

def literalValue : Reader Tree := node .other do
  return (← between "\x7b" "\x7d" .bracketed (commaList (entry self))).flatten

def typeOperand : Reader Tree := node .other do
  let type ← self .type
  if ← isNext (isMark "\x7b") then return [type, ← self .literalValue]
  else
    let value ← between "(" ")" .bracketed do
      let value ← self .expression
      let _ ← optional (mark ",")
      return value
    return [type, value]

def functionOperand : Reader Tree := node .other do
  let _ ← word "func"
  let parts ← signature self
  if ← isNext (isMark "\x7b") then return parts ++ [← self .block]
  else return parts ++ [← between "(" ")" .bracketed (self .expression)]

def makingOperand : Reader Tree := do
  let start ← start
  let name ← nameAs .identifier
  match ← optional (do sameLine; if !(← isNext (isMark "(")) then failure) with
  | some _ => extend .call name start (typeFirstArguments self)
  | none => return name

def operand : Reader Tree := do
  match ← peek? with
  | none => failure
  | some t =>
    match t.kind with
    | .literal | .text => leaf .other (token fun _ => true)
    | .word =>
      if t.text = "func" then functionOperand self
      else if typeWords.contains t.text then typeOperand self
      else if t.text = "new" ∨ t.text = "make" then makingOperand self
      else nameAs .identifier
    | .mark =>
      if t.text = "(" then
        node .other do return [← between "(" ")" .bracketed (firstOf [self .expression, self .type])]
      else if t.text = "[" then typeOperand self
      else failure
    | .finish => failure

def namesType (t : Tree) : Bool :=
  match t with
  | .node .identifier _ _ _ _ => true
  | .node .selector _ _ _ [.node .identifier _ _ _ _, _] => true
  | _ => false

def selected (first : Tree) (start : Nat) : Reader Tree := do
  let _ ← mark "."
  if ← isNext (isMark "(") then
    let question ← between "(" ")" .bracketed do
      match ← optional (word "type") with
      | some _ => return none
      | none => some <$> self .type
    match question with
    | none => extend .typeQuestion first start (return [])
    | some type => extend .other first start (return [type])
  else extend .selector first start do return [← wordAs .name]

/-- A place in a list, or a part of the list; null if the brackets hold types. -/
def index (first : Tree) (start : Nat) : Reader Tree :=
  extend .other first start (between "[" "]" .bracketed do
    let low ← optional (self .expression)
    match ← optional (mark ":") with
    | some _ =>
      let high ← optional (self .expression)
      let capacity ← optional (do let _ ← mark ":"; self .expression)
      if capacity.isSome && high.isNone then failure
      return low.toList ++ high.toList ++ capacity.toList
    | none => match low with
      | some low => return [low]
      | none => failure)

def instantiated (first : Tree) (start : Nat) : Reader Tree := do
  let types ← typeArguments self
  match ← optional (adjoining (arguments self)) with
  | some arguments => extend .call first start (return types ++ arguments)
  | none => extend .other first start (return types)

def suffixed (first : Tree) (start : Nat) : Reader Tree := do
  sameLine
  match ← peek? with
  | none => failure
  | some t =>
    if isMark "." t then selected self first start
    else if isMark "[" t then firstOf [index self first start, instantiated self first start]
    else if isMark "(" t then extend .call first start (arguments self)
    else if isMark "\x7b" t then
      if (← mode).literals && names first then extend .other first start do return [← self .literalValue]
      else failure
    else failure
where
  names (first : Tree) : Bool :=
    namesType first || match first with
      | .node .other _ source size (name :: _ :: _) =>
        namesType name && (source.take size).getLast? == some ']'
      | _ => false

def primaryFrom : Nat → Tree → Nat → Reader Tree
  | 0, first, _ => return first
  | fuel + 1, first, start => do
    match ← optional (suffixed self first start) with
    | some next => primaryFrom fuel next start
    | none => return first

def primary : Reader Tree := do
  let start ← start
  let first ← operand self
  primaryFrom self ((← get).tokens.length) first start

def unary : Reader Tree := do
  if ← isNext (fun t => t.kind == .mark && prefixMarks.contains t.text) then
    node .other do
      let _ ← many (oneOf prefixMarks)
      return [← primary self]
  else primary self

def expression : Reader Tree := do
  let start ← start
  let first ← unary self
  match ← many (do sameLine; let _ ← oneOf operatorMarks; unary self) with
  | [] => return first
  | rest => extend .other first start (return rest)

end Demarcation.Go
