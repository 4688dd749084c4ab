import Demarcation.Language.Strict.Syntax

namespace Demarcation.Python.Strict

open Grammar Grammar.Reader

variable (self : Rule → Reader Node)

/-! ### Entries -/

def unpacked (rule : Rule) : Reader Node := do
  let _ ← mark "*"
  return .node .starred [← self rule]

def starExpression : Reader Node := do
  if ← isNext (isMark "*") then unpacked self .operand else self .expression

def named : Reader Node := do
  if ← isNameBefore ":=" then
    let target ← name
    let _ ← mark ":="
    return .node .named [.leaf (.name target), ← self .expression]
  else self .expression

def entry : Reader Node := do
  if ← isNext (isMark "*") then unpacked self .operand else named self

def moreEntries {α : Type} (p : Reader α) : Reader (List α) := do
  let rest ← many (do let _ ← mark ","; p)
  let _ ← optional (mark ",")
  return rest

def yielded : Reader Node := do
  let _ ← word "yield"
  match ← optional (word "from") with
  | some _ => return .node .yieldFrom [← self .expression]
  | none => return .node .yield (← optional (self .tuple)).toList

def value : Reader Node := do
  if ← isNext (isWord "yield") then yielded self else self .tuple

/-! ### Comprehensions -/

def target : Reader Node := do
  let t ← if ← isNext (isMark "*") then unpacked self .primary else self .primary
  if t.isStarTarget then return t else failure

def targets : Reader Node := tupleOf (target self)

def comprehensionClause : Reader Node := do
  let async ← optional (word "async")
  let _ ← word "for"
  let target ← targets self
  let _ ← word "in"
  let source ← self .disjunction
  let conditions ← many (do let _ ← word "if"; self .disjunction)
  return .node (.comprehension async.isSome) (target :: source :: conditions)

def comprehension (shape : Shape) (first : List Node) : Reader Node := do
  if first.any (·.isStarred) then failure
  let clause ← comprehensionClause self
  return .node shape (first ++ clause :: (← many (comprehensionClause self)))

/-! ### Brackets -/

def parenthesis : Reader Node := between "(" ")" do
  if ← isNext (isMark ")") then return .node .tuple []
  else if ← isNext (isWord "yield") then yielded self
  else
    let first ← entry self
    if ← isNext (isMark ",") then return .node .tuple (first :: (← moreEntries (entry self)))
    else
      match ← optional (comprehension self .generator [first]) with
      | some t => return t
      | none => if first.isStarred then failure else return first

def listDisplay : Reader Node := between "[" "]" do
  if ← isNext (isMark "]") then return .node .list []
  else
    let first ← entry self
    match ← optional (comprehension self .listComprehension [first]) with
    | some t => return t
    | none => return .node .list (first :: (← moreEntries (entry self)))

def dictEntry : Reader (Option Node × Node) := do
  if ← isNext (isMark "**") then
    let _ ← mark "**"
    return (none, ← self .operand)
  else
    let key ← self .expression
    let _ ← mark ":"
    return (some key, ← self .expression)

def dictOf (entries : List (Option Node × Node)) : Node :=
  .node (.dict (entries.map (·.1.isSome))) (entries.filterMap (·.1) ++ entries.map (·.2))

def braces : Reader Node := between "\x7b" "\x7d" do
  if ← isNext (isMark "\x7d") then return dictOf []
  else if ← isNext (isMark "**") then
    let first ← dictEntry self
    return dictOf (first :: (← moreEntries (dictEntry self)))
  else
    let naming ← isNameBefore ":="
    let first ← entry self
    let keyed ← isNext (isMark ":")
    if keyed && !naming && !first.isStarred then
      let _ ← mark ":"
      let value ← self .expression
      match ← optional (comprehension self .dictComprehension [first, value]) with
      | some t => return t
      | none => return dictOf ((some first, value) :: (← moreEntries (dictEntry self)))
    else
      match ← optional (comprehension self .setComprehension [first]) with
      | some t => return t
      | none => return .node .set (first :: (← moreEntries (entry self)))

/-! ### Calls and places -/

inductive Argument where
  | positional (t : Node)
  | unpacked (t : Node)
  | keyword (t : Node)
  | unpackedKeywords (t : Node)

namespace Argument

/-- An argument by position cannot follow one by name, nor any argument by position one that gives several by name. -/
def inOrder : List Argument → Bool
  | [] => true
  | a :: as =>
    let allowed (b : Argument) : Bool :=
      match a, b with
      | .keyword _, .positional _ | .unpackedKeywords _, .positional _ | .unpackedKeywords _, .unpacked _ => false
      | _, _ => true
    as.all allowed && inOrder as

def positional? : Argument → Option Node
  | .positional t | .unpacked t => some t
  | _ => none

def keyword? : Argument → Option Node
  | .keyword t | .unpackedKeywords t => some t
  | _ => none

end Argument

def argument : Reader Argument := do
  if ← isNext (isMark "*") then return .unpacked (← unpacked self .expression)
  else if ← isNext (isMark "**") then
    let _ ← mark "**"
    return .unpackedKeywords (.node (.keyword none) [← self .expression])
  else if ← isNameBefore "=" then
    let parameter ← name
    let _ ← mark "="
    return .keyword (.node (.keyword (some parameter)) [← self .expression])
  else return .positional (← named self)

def sorted (as : List Argument) : Reader (List Node × List Node) :=
  if Argument.inOrder as then return (as.filterMap (·.positional?), as.filterMap (·.keyword?)) else failure

def arguments : Reader (List Node × List Node) := do sorted (← commaList (argument self))

def soleGenerator : Argument → Reader Node
  | .positional t => comprehension self .generator [t]
  | _ => failure

def callArguments : Reader (List Node × List Node) := between "(" ")" do
  match ← optional (argument self) with
  | none => return ([], [])
  | some first =>
    match ← optional (soleGenerator self first) with
    | some t => return ([t], [])
    | none => sorted (first :: (← moreEntries (argument self)))

def subscript : Reader Node := do
  if ← isNext (isMark "*") then unpacked self .expression
  else
    let naming ← isNameBefore ":="
    let lower ← if ← isNext (isMark ":") then pure none else some <$> named self
    if naming then
      match lower with
      | some t => return t
      | none => failure
    else
      match ← optional (mark ":"), lower with
      | none, some t => return t
      | none, none => failure
      | some _, _ =>
        let upper ← optional (self .expression)
        let step ← optional (do let _ ← mark ":"; optional (self .expression))
        let step := step.getD none
        return .node (.slice lower.isSome upper.isSome step.isSome) (lower.toList ++ upper.toList ++ step.toList)

def subscripts : Reader Node := between "[" "]" do
  let t ← tupleOf (subscript self)
  return if t.isStarred then .node .tuple [t] else t

/-- Whether a point after a number would be read as a part of it. -/
def Shape.isInteger : Shape → Bool
  | .constant (.integer _) | .constant .true | .constant .false => true
  | _ => false

def attributeOf (t : Node) (id : String) : Node := .node (.attribute id t.shape.isInteger) [t]

def subscriptOf (t place : Node) : Node :=
  .node (.subscript (place.shape == .tuple && !place.children.isEmpty)) [t, place]

def callOf (t : Node) (arguments : List Node × List Node) : Node :=
  .node (.call arguments.1.length) (t :: arguments.1 ++ arguments.2)

def suffixed (t : Node) : Reader Node := do
  if ← isNext (isMark ".") then
    let _ ← mark "."
    return attributeOf t (← name)
  else if ← isNext (isMark "[") then return subscriptOf t (← subscripts self)
  else return callOf t (← callArguments self)

def suffixes : Nat → Node → Reader Node
  | 0, t => return t
  | fuel + 1, t => do
    match ← optional (suffixed self t) with
    | some next => suffixes fuel next
    | none => return t

/-- The value that stands in a text. It is read as if it stood in parentheses. -/
def valueIn (source : List Char) : Option Node := do
  let tokens ← tokens? ('(' :: source ++ [')'])
  (self .tuple).run () tokens

def strings : Reader Node := do
  let first ← ofKind .string
  let rest ← many (ofKind .string)
  match textNode? (valueIn self) ((first :: rest).map fun t => Literal.ofToken t.text) with
  | some t => return t
  | none => failure

def constant (c : Constant) : Reader Node := do
  let _ ← token fun _ => true
  return .leaf (.constant c)

def atom : Reader Node := do
  match ← peek? with
  | none => failure
  | some t =>
    match t.kind with
    | .string => strings self
    | .number =>
      match numberConstant? t.text with
      | some c => constant c
      | none => failure
    | .word =>
      if t.text = "None" then constant .none
      else if t.text = "True" then constant .true
      else if t.text = "False" then constant .false
      else return .leaf (.name (← name))
    | .mark =>
      if t.text = "(" then parenthesis self
      else if t.text = "[" then listDisplay self
      else if t.text = "\x7b" then braces self
      else if t.text = "..." then constant .ellipsis
      else failure
    | _ => failure

def primary : Reader Node := do
  let first ← atom self
  suffixes self (← get).tokens.length first

/-! ### Operators -/

def power : Reader Node := do
  let base ← if ← isNext (isWord "await") then do
      let _ ← word "await"
      pure (.node .await [← primary self])
    else primary self
  match ← optional (mark "**") with
  | some _ => return .node (.binary "**") [base, ← self .factor]
  | none => return base

def factor : Reader Node := do
  match ← optional (oneOf ["+", "-", "~"]) with
  | some sign => return .node (.unary sign.text) [← self .factor]
  | none => power self

def leftOperators : List (List String) := [
  ["|"], ["^"], ["&"], ["<<", ">>"], ["+", "-"], ["*", "/", "//", "%", "@"]]

def operation : List (List String) → Reader Node
  | [] => factor self
  | marks :: stronger => do
    let first ← operation stronger
    let rest ← many (do
      let sign ← oneOf marks
      return (sign.text, ← operation stronger))
    return rest.foldl (fun t r => .node (.binary r.1) [t, r.2]) first

def comparisonOperator : Reader String := firstOf [
  return (← oneOf ["==", "!=", "<=", "<", ">=", ">"]).text,
  (do let _ ← word "in"; return "in"),
  (do let _ ← word "not"; let _ ← word "in"; return "not in"),
  (do
    let _ ← word "is"
    match ← optional (word "not") with
    | some _ => return "is not"
    | none => return "is")]

def comparison : Reader Node := do
  let first ← self .operand
  match ← many (do return (← comparisonOperator, ← self .operand)) with
  | [] => return first
  | rest => return .node (.compare (rest.map (·.1))) (first :: rest.map (·.2))

def inversion : Reader Node := do
  match ← optional (word "not") with
  | some _ => return .node (.unary "not") [← self .inversion]
  | none => comparison self

def joinedBy (operator : String) (p : Reader Node) : Reader Node := do
  match ← separated p (word operator) with
  | [t] => return t
  | ts => return .node (.boolean operator) ts

def disjunction : Reader Node := joinedBy "or" (joinedBy "and" (self .inversion))

/-! ### Parameters and functions without a name -/

/-- An entry of a list of parameters: a parameter with its value, the mark that ends those given by position only, one
that takes the rest or ends those given by position, and one that takes the rest by name. -/
inductive ParameterEntry where
  | plain (parameter : Node) (value : Option Node)
  | slash
  | star (parameter : Option Node)
  | stars (parameter : Node)

namespace ParameterEntry

def plain? : ParameterEntry → Option (Node × Option Node)
  | plain p v => some (p, v)
  | _ => none

end ParameterEntry

def parameter (typed : Bool) (type : Reader Node) : Reader Node := do
  let id ← name
  if typed then
    return .node (.parameter id) (← optional (do let _ ← mark ":"; type)).toList
  else return .leaf (.parameter id)

def parameterEntry (typed : Bool) : Reader ParameterEntry := do
  if ← isNext (isMark "/") then
    let _ ← mark "/"
    return .slash
  else if ← isNext (isMark "*") then
    let _ ← mark "*"
    return .star (← optional (parameter typed (starExpression self)))
  else if ← isNext (isMark "**") then
    let _ ← mark "**"
    return .stars (← parameter typed (self .expression))
  else
    let p ← parameter typed (self .expression)
    return .plain p (← optional (do let _ ← mark "="; self .expression))

/-- The values of parameters, from the first one on that has one; none if one without a value follows. -/
def trailingValues (ps : List (Node × Option Node)) : Option (List Node) :=
  (ps.dropWhile (·.2.isNone)).mapM (·.2)

def parametersOf (entries : List ParameterEntry) : Option Node := do
  let plains (es : List ParameterEntry) : List (Node × Option Node) × List ParameterEntry :=
    (es.filterMap (·.plain?) |>.take (es.takeWhile (·.plain?.isSome)).length, es.dropWhile (·.plain?.isSome))
  let (front, rest) := plains entries
  let (only, (more, rest)) ← match rest with
    | .slash :: rest => if front.isEmpty then none else some (front, plains rest)
    | _ => some ([], (front, rest))
  let values ← trailingValues (only ++ more)
  let (taker, (named, rest)) ← match rest with
    | .star (some p) :: rest => some ([p], plains rest)
    | .star none :: rest =>
      let (named, rest) := plains rest
      if named.isEmpty then none else some ([], (named, rest))
    | _ => some ([], ([], rest))
  let namedTaker ← match rest with
    | [] => some []
    | [.stars p] => some [p]
    | _ => none
  return .node
    (.arguments ⟨only.length, more.length, !taker.isEmpty, named.map (·.2.isSome), !namedTaker.isEmpty, values.length⟩)
    ((only ++ more).map (·.1) ++ taker ++ named.map (·.1) ++ named.filterMap (·.2) ++ namedTaker ++ values)

def parameters (typed : Bool) : Reader Node := do
  match parametersOf (← commaList (parameterEntry self typed)) with
  | some t => return t
  | none => failure

def lambda : Reader Node := do
  let _ ← word "lambda"
  let ps ← parameters self false
  let _ ← mark ":"
  return .node .lambda [ps, ← self .expression]

def expression : Reader Node := do
  if ← isNext (isWord "lambda") then lambda self
  else
    let first ← disjunction self
    match ← optional (do
        let _ ← word "if"
        let condition ← disjunction self
        let _ ← word "else"
        return (condition, ← self .expression)) with
    | some (condition, otherwise) => return .node .conditional [condition, first, otherwise]
    | none => return first

end Demarcation.Python.Strict
