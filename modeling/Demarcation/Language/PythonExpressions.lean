import Demarcation.Language.PythonSyntax

namespace Demarcation.Python

open Grammar Grammar.Reader

variable (self : Rule → Reader Tree)

def commas (p : Reader Tree) : Reader (List Tree × Bool) := do
  let first ← p
  let rest ← many (do sameLine; let _ ← mark ","; sameLine; p)
  let ending ← optional (do sameLine; mark ",")
  return (first :: rest, ending.isSome)

def expressions : Reader Tree := do
  let start ← start
  match ← commas (self .expression) with
  | ([e], false) => return e
  | (e :: es, _) => extend .other e start (return es)
  | ([], _) => failure

def yielded : Reader Tree := node .other do
  let _ ← word "yield"
  match ← optional (do sameLine; word "from") with
  | some _ => return [← self .expression]
  | none => return (← optional (do sameLine; expressions self)).toList

/-! ### Texts -/

def hole (format : Reader (List Tree)) : Reader Tree := node .other do
  between "\x7b" "\x7d" do
    let value ← if ← isNext (isWord "yield") then yielded self else expressions self
    let _ ← optional (mark "=")
    let _ ← optional (take (·.kind == .conversion))
    match ← optional (mark ":") with
    | some _ => return value :: (← format)
    | none => return [value]

def formatParts : Nat → Reader (List Tree)
  | 0 => return []
  | fuel + 1 => many do
    if ← isNext (·.kind == .format) then leaf .other (take (·.kind == .format)) else hole self (formatParts fuel)

def string : Reader Tree := node .string do
  let m ← mode
  let _ ← take (·.kind == .opening)
  within { m with breaks := false, bracketed := true } do
    let parts ← many do
      if ← isNext (·.kind == .content) then leaf .content (take (·.kind == .content))
      else hole self (formatParts self (← get).tokens.length)
    let _ ← take (·.kind == .closing)
    return parts

def strings : Reader Tree := do
  let start ← start
  let first ← string self
  match ← many (do sameLine; string self) with
  | [] => return first
  | rest => extend .other first start (return rest)

/-! ### Brackets -/

def targets : Reader (List Tree) := return (← commas (self .pattern)).1

/-- A loop or a condition of a comprehension. The expressions in it have no alternative. -/
def comprehensionClause : Reader Tree := node .other do
  if ← isNext (isWord "if") then
    let _ ← word "if"
    return [← self .comparison]
  else
    let _ ← optional (word "async")
    let _ ← word "for"
    let targets ← targets self
    let _ ← word "in"
    return targets ++ (← commas (self .comparison)).1

def comprehension : Reader (List Tree) := do
  if ← isNext (isWord "if") then failure
  return (← comprehensionClause self) :: (← many (comprehensionClause self))

def entry : Reader Tree := do
  if ← isNext (isWord "yield") then yielded self
  else if ← isNext (isMark "*") then
    node .splat do
      let _ ← mark "*"
      return [← self .expression]
  else self .expression

def moreEntries (p : Reader Tree) : Reader (List Tree) := do
  let rest ← many (do let _ ← mark ","; p)
  let _ ← optional (mark ",")
  return rest

def parenthesis : Reader Tree := nodeOf (between "(" ")" do
  match ← optional (entry self) with
  | none => return (.tuple, [])
  | some first =>
    match ← optional (comprehension self) with
    | some clauses => return (.other, first :: clauses)
    | none =>
      if ← isNext (isMark ",") then return (.tuple, first :: (← moreEntries (entry self)))
      else return (.parenthesized, [first]))

def listDisplay : Reader Tree := nodeOf (between "[" "]" do
  match ← optional (entry self) with
  | none => return (.list, [])
  | some first =>
    match ← optional (comprehension self) with
    | some clauses => return (.other, first :: clauses)
    | none => return (.list, first :: (← moreEntries (entry self))))

/-- An entry of a dictionary, or of a set if no colon follows; the flag tells whether it belongs to a dictionary. -/
def pair : Reader (Tree × Bool) := do
  let start ← start
  if ← isNext (isMark "**") then
    let splat ← node .other do
      let _ ← mark "**"
      return [← self .expression]
    return (splat, true)
  else
    let key ← entry self
    match ← optional (mark ":") with
    | some _ =>
      let value ← self .expression
      return (← extend .other key start (return [value]), true)
    | none => return (key, false)

def braces : Reader Tree := node .other (between "\x7b" "\x7d" do
  match ← optional (pair self) with
  | none =>
    let _ ← optional (mark ",")
    return []
  | some (first, keyed) =>
    match ← optional (comprehension self) with
    | some clauses => return first :: clauses
    | none => return first :: (← moreEntries do
        let (entry, k) ← pair self
        if k != keyed then failure
        return entry))

/-! ### Calls and places -/

def argument : Reader Tree := do
  if ← isNext (isMark "*") then
    node .splat do
      let _ ← mark "*"
      return [← self .expression]
  else if ← isNext (isMark "**") then
    node .other do
      let _ ← mark "**"
      return [← self .expression]
  else
    firstOf [
      node .keywordArgument do
        let name ← identifier
        let _ ← mark "="
        return [name, ← self .expression],
      self .expression]

def arguments (ofCall : Bool) : Reader Tree := node .arguments (between "(" ")" do
  match ← optional (argument self) with
  | none =>
    let _ ← optional (mark ",")
    return []
  | some first =>
    match ← optional (comprehension self) with
    | some clauses =>
      if !ofCall || first.kind == .splat || first.kind == .keywordArgument then failure
      return first :: clauses
    | none => return first :: (← moreEntries (argument self)))

def subscript : Reader (List Tree) := do
  let low ← optional (self .expression)
  match ← optional (mark ":") with
  | none => match low with
    | some low => return [low]
    | none => failure
  | some _ =>
    let high ← optional (self .expression)
    let step ← optional (do let _ ← mark ":"; optional (self .expression))
    return low.toList ++ high.toList ++ (step.getD none).toList

def subscripts : Reader (List Tree) := between "[" "]" do return (← listed (subscript self) (mark ",")).flatten

def suffixed (first : Tree) (start : Nat) : Reader Tree := do
  sameLine
  match ← peek? with
  | none => failure
  | some t =>
    if isMark "." t then
      extend .attribute first start do
        let _ ← mark "."
        return [← identifier]
    else if isMark "[" t then extend .subscript first start (subscripts self)
    else if isMark "(" t then extend .call first start do return [← arguments self true]
    else failure

def suffixes (admits : Token → Bool) : Nat → Tree → Nat → Reader Tree
  | 0, first, _ => return first
  | fuel + 1, first, start => do
    match ← optional (do if ← isNext admits then suffixed self first start else failure) with
    | some next => suffixes admits fuel next start
    | none => return first

def starred : Reader Tree := node .splat do
  let _ ← mark "*"
  let start ← start
  let name ← identifier
  return [← suffixes self (fun t => isMark "." t || isMark "[" t) ((← get).tokens.length) name start]

def atom : Reader Tree := do
  match ← peek? with
  | none => failure
  | some t =>
    match t.kind with
    | .opening => strings self
    | .number => leaf .other (take fun _ => true)
    | .word =>
      if t.text = "True" ∨ t.text = "False" ∨ t.text = "None" then leaf .other (take fun _ => true)
      else if t.text = "await" then
        firstOf [node .other do let _ ← word "await"; sameLine; return [← self .primary], identifier]
      else identifier
    | .mark =>
      if t.text = "(" then parenthesis self
      else if t.text = "[" then listDisplay self
      else if t.text = "\x7b" then braces self
      else if t.text = "*" then starred self
      else if t.text = "..." then leaf .other (mark "...")
      else failure
    | _ => failure

def primary : Reader Tree := do
  if ← isNext (fun t => t.kind == .mark && ["+", "-", "~"].contains t.text) then
    node .other do
      let _ ← take fun _ => true
      return [← self .primary]
  else
    let start ← start
    let first ← atom self
    suffixes self (fun _ => true) ((← get).tokens.length) first start

def isPattern : Tree → Bool
  | .node .identifier _ _ _ _ | .node .attribute _ _ _ _ | .node .subscript _ _ _ _ => true
  | .node .splat _ _ _ [.node k _ _ _ _] => k == .identifier || k == .attribute || k == .subscript
  | .node .tuple _ _ _ ts | .node .list _ _ _ ts | .node .parenthesized _ _ _ ts => all ts
  | _ => false
where
  all : List Tree → Bool
    | [] => true
    | t :: ts => isPattern t && all ts

def pattern : Reader Tree := do
  let t ← self .primary
  if isPattern t then return t else failure

/-! ### Operators -/

def arithmeticMarks : List String := ["+", "-", "*", "@", "/", "%", "//", "**", "|", "&", "^", "<<", ">>"]

def comparisonMarks : List String := ["<", "<=", "==", "!=", ">=", ">", "<>"]

def comparisonWords : Reader Unit := do
  if ← isNext (isWord "in") then let _ ← word "in"
  else if ← isNext (isWord "is") then
    let _ ← word "is"
    let _ ← optional (word "not")
  else
    let _ ← word "not"
    let _ ← word "in"

def operator : Reader Unit := do
  sameLine
  if ← isNext (·.kind == .word) then comparisonWords
  else let _ ← oneOf (arithmeticMarks ++ comparisonMarks)

def operation : Reader Tree := do
  let start ← start
  let first ← self .primary
  match ← many (do operator; self .primary) with
  | [] => return first
  | rest => extend .other first start (return rest)

def lambdaParameter : Reader Tree := firstOf [
  node .defaultParameter do
    let name ← identifier
    let _ ← mark "="
    return [name, ← self .expression],
  identifier,
  node .splat do
    let _ ← oneOf ["*", "**"]
    return (← optional (self .pattern)).toList,
  leaf .other (mark "/"),
  node .other (between "(" ")" (commaList (self .pattern)))]

def lambda : Reader Tree := node .other do
  let _ ← word "lambda"
  let parameters ← commaList (lambdaParameter self)
  let _ ← mark ":"
  return parameters ++ [← self .expression]

def named : Reader Tree := node .other do
  let name ← identifier
  let _ ← mark ":="
  return [name, ← self .expression]

def negation : Nat → Reader Tree
  | 0 => failure
  | fuel + 1 => do
    if ← isNext (isWord "not") then
      node .other do
        let _ ← word "not"
        return [← negation fuel]
    else if ← isNext (isWord "lambda") then lambda self
    else firstOf [named self, operation self]

def comparison : Reader Tree := do
  let start ← start
  let fuel := (← get).tokens.length
  let first ← negation self fuel
  match ← many (do
    sameLine
    let _ ← take fun t => isWord "and" t || isWord "or" t
    negation self fuel) with
  | [] => return first
  | rest => extend .other first start (return rest)

def expression : Reader Tree := do
  let start ← start
  let first ← self .comparison
  let chosen ← match ← optional (do
      sameLine
      let _ ← word "if"
      let condition ← self .expression
      let _ ← word "else"
      return [condition, ← self .expression]) with
    | some rest => extend .other first start (return rest)
    | none => pure first
  match ← many (do sameLine; let _ ← word "as"; self .expression) with
  | [] => return chosen
  | names => extend .other chosen start (return names)

def type : Reader Tree := do
  if ← isNext (fun t => isMark "*" t || isMark "**" t) then
    node .other do
      let _ ← oneOf ["*", "**"]
      return [← identifier]
  else self .expression

end Demarcation.Python
