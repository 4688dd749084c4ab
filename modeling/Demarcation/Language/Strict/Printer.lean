import Demarcation.Language.Strict.Node
import Demarcation.Text.Quoted

namespace Demarcation.Python.Strict

open Text

abbrev Strength := Nat

namespace Strength

def naming : Strength := 1

def tuple : Strength := 2

def yield : Strength := 3

def choice : Strength := 4

def comparison : Strength := 8

def bits : Strength := 9

def sign : Strength := 15

def power : Strength := 16

def await : Strength := 17

def atom : Strength := 18

def next (s : Strength) : Strength := min (s + 1) atom

def ofBoolean (operator : String) : Strength := if operator = "or" then 5 else 6

def ofUnary (operator : String) : Strength := if operator = "not" then 7 else sign

def ofBinary (operator : String) : Strength :=
  match operator with
  | "|" => bits
  | "^" => 10
  | "&" => 11
  | "<<" | ">>" => 12
  | "+" | "-" => 13
  | "**" => power
  | _ => 14

end Strength

def Shape.strength (shape : Shape) (count : Nat) : Strength :=
  match shape with
  | .named => .naming
  | .tuple => if count = 0 then .atom else .tuple
  | .yield | .yieldFrom => .yield
  | .lambda | .conditional => .choice
  | .boolean operator => .ofBoolean operator
  | .compare _ => .comparison
  | .unary operator => .ofUnary operator
  | .binary operator => .ofBinary operator
  | .await => .await
  | _ => .atom

def Shape.demands (shape : Shape) (count : Nat) : List Strength :=
  match shape with
  | .named | .await | .yield | .yieldFrom => List.replicate count .atom
  | .attribute _ _ => [.atom]
  | .subscript bare => [.atom, if bare then .tuple else .choice]
  | .call _ => .atom :: List.replicate (count - 1) .choice
  | .starred => [.bits]
  | .dict keyed => keyed.filterMap (fun k => if k then some .choice else none) ++ keyed.map fun k =>
      if k then .choice else .bits
  | .unary operator => [.ofUnary operator]
  | .binary operator =>
    let s := Strength.ofBinary operator
    if operator = "**" then [s.next, s] else [s, s.next]
  | .boolean operator => (List.range count).map fun i => min (Strength.ofBoolean operator + i + 1) .atom
  | .compare _ => List.replicate count (Strength.next .comparison)
  | .conditional => [Strength.next .choice, Strength.next .choice, .choice]
  | .comprehension _ => .tuple :: List.replicate (count - 1) (Strength.next .choice)
  | _ => List.replicate count .choice

def bracketed (opening closing : String) (inside : String) : String := opening ++ inside ++ closing

def listedTexts (texts : List String) : String := ", ".intercalate texts

def tupleText : List String → String
  | [] => "()"
  | [t] => t ++ ","
  | ts => listedTexts ts

def parametersText (p : ParameterList) (texts : List String) : String :=
  let (positional, texts) := texts.splitAt (p.positional + p.plain)
  let (rest, texts) := texts.splitAt p.rest.toNat
  let (named, texts) := texts.splitAt p.named.length
  let (namedValues, texts) := texts.splitAt (p.named.filter id).length
  let (namedRest, values) := texts.splitAt p.namedRest.toNat
  let withoutValue := positional.length - values.length
  let valued := positional.take withoutValue ++ List.zipWith (· ++ "=" ++ ·) (positional.drop withoutValue) values
  let marked := if p.positional = 0 then valued else valued.take p.positional ++ "/" :: valued.drop p.positional
  let star := if rest.isEmpty && p.named.isEmpty then [] else ["*" ++ "".intercalate rest]
  let rec assign : List Bool → List String → List String → List String
    | true :: flags, name :: names, value :: values => (name ++ "=" ++ value) :: assign flags names values
    | false :: flags, name :: names, values => name :: assign flags names values
    | _, _, _ => []
  listedTexts (marked ++ star ++ assign p.named named namedValues ++ namedRest.map ("**" ++ ·))

def byteText (mark : Char) (n : Nat) : List Char :=
  if n = mark.toNat ∨ n = 0x5c then ['\\', Char.ofNat n]
  else if n = 9 then ['\\', 't']
  else if n = 10 then ['\\', 'n']
  else if n = 13 then ['\\', 'r']
  else if 32 ≤ n ∧ n < 127 then [Char.ofNat n]
  else '\\' :: 'x' :: hexDigits 2 n

def bytesText (values : List Nat) : String :=
  let mark := if values.contains 39 && !values.contains 34 then '"' else '\''
  String.ofList ('b' :: mark :: values.flatMap (byteText mark) ++ [mark])

/-! ### Texts with values in them -/

def quotationMarks : List String := ["'", "\"", "\"\"\"", "'''"]

def plainChar (all : Bool) (c : Char) : List Char :=
  if !all && (c = '\n' || c = '\t') then [c]
  else if c = '\\' then ['\\', '\\']
  else if isPrintable c then [c]
  else escapeChar '\'' c

def hasWithin (word : List Char) : List Char → Bool
  | [] => word.isEmpty
  | c :: cs => word.isPrefixOf (c :: cs) || hasWithin word cs

def quotable (marks : List String) (all : Bool) (part : List Char) : List Char × List String :=
  let escaped := part.flatMap (plainChar all)
  let fitting := (if escaped.contains '\n' then marks.filter fun m => m.length = 3 else marks).filter fun m =>
    !hasWithin m.toList escaped
  match fitting with
  | [] =>
    let whole := (quoted (String.ofList part)).toList
    let first := whole.headD '\''
    let mark := (marks.find? fun m => m.toList.contains first).getD (String.singleton first)
    ((whole.drop 1).dropLast, [mark])
  | m :: ms =>
    match escaped.getLast? with
    | none => (escaped, m :: ms)
    | some last =>
      let sorted := (m :: ms).filter (·.toList.head? ≠ some last) ++ (m :: ms).filter (·.toList.head? = some last)
      if (sorted.head?.bind (·.toList.head?)) = some last then (escaped.dropLast ++ ['\\', last], sorted)
      else (escaped, sorted)

/-- The parts of a text between marks that fit all of them; the flags tell which parts are no values. If no marks fit,
single ones are tripled and escaped in the text. -/
def quoteParts (parts : List (String × Bool)) : String :=
  let step (known : Option (List Char × List String)) (part : String × Bool) : Option (List Char × List String) := do
    let (texts, marks) ← known
    let (text, fitting) := quotable marks part.2 part.1.toList
    if fitting.any marks.contains then return (texts ++ text, fitting) else none
  match parts.foldl step (some ([], quotationMarks)) with
  | some (texts, marks) =>
    let mark := marks.headD "'"
    mark ++ String.ofList texts ++ mark
  | none => "'''" ++ String.ofList (parts.flatMap fun p => p.1.toList.flatMap (escapeChar '\'')) ++ "'''"

def quoteWithoutEscapes (s : String) : String :=
  let (text, marks) := quotable quotationMarks false s.toList
  let mark := marks.headD "'"
  mark ++ String.ofList text ++ mark

def doubleBraces (s : String) : String :=
  String.ofList (s.toList.flatMap fun c => if c = '\x7b' ∨ c = '\x7d' then [c, c] else [c])

/-- A constant. Inside the values of a text, backslashes are avoided. -/
def Constant.text (inner : Bool) : Constant → String
  | .none => "None"
  | .true => "True"
  | .false => "False"
  | .ellipsis => "..."
  | .integer n => toString n
  | .number s => s
  | .string s marked => (if marked then "u" else "") ++ if inner then quoteWithoutEscapes s else quoted s
  | .bytes values => bytesText values

def Shape.assemble (inner : Bool) (shape : Shape) (texts : List String) : String :=
  let first := texts.headD ""
  let rest := texts.drop 1
  match shape with
  | .name id => id
  | .constant c => c.text inner
  | .attribute id apart => first ++ (if apart then " ." else ".") ++ id
  | .subscript _ => first ++ bracketed "[" "]" ("".intercalate rest)
  | .call _ => first ++ bracketed "(" ")" (listedTexts rest)
  | .keyword (some id) => id ++ "=" ++ first
  | .keyword none => "**" ++ first
  | .starred => "*" ++ first
  | .tuple => tupleText texts
  | .list => bracketed "[" "]" (listedTexts texts)
  | .set => bracketed "\x7b" "\x7d" (listedTexts texts)
  | .dict keyed =>
    let (keys, values) := texts.splitAt (keyed.filter id).length
    let rec entries : List Bool → List String → List String → List String
      | true :: flags, key :: keys, value :: values => (key ++ ": " ++ value) :: entries flags keys values
      | false :: flags, keys, value :: values => ("**" ++ value) :: entries flags keys values
      | _, _, _ => []
    bracketed "\x7b" "\x7d" (listedTexts (entries keyed keys values))
  | .unary operator => operator ++ (if operator = "not" then " " else "") ++ first
  | .binary operator | .boolean operator => (" " ++ operator ++ " ").intercalate texts
  | .compare operators => first ++ String.join (List.zipWith (fun o t => " " ++ o ++ " " ++ t) operators rest)
  | .lambda => (if first.isEmpty then "lambda" else "lambda " ++ first) ++ ": " ++ "".intercalate rest
  | .arguments p => parametersText p texts
  | .parameter id => id ++ String.join (texts.map (": " ++ ·))
  | .conditional =>
    match texts with
    | [condition, value, otherwise] => value ++ " if " ++ condition ++ " else " ++ otherwise
    | _ => ""
  | .named => " := ".intercalate texts
  | .await => "await " ++ first
  | .yield => if texts.isEmpty then "yield" else "yield " ++ first
  | .yieldFrom => "yield from " ++ first
  | .listComprehension => bracketed "[" "]" ("".intercalate texts)
  | .setComprehension => bracketed "\x7b" "\x7d" ("".intercalate texts)
  | .generator => bracketed "(" ")" ("".intercalate texts)
  | .dictComprehension =>
    bracketed "\x7b" "\x7d" (first ++ ": " ++ "".intercalate rest)
  | .comprehension async =>
    (if async then " async for " else " for ") ++ first ++ " in " ++ rest.headD ""
      ++ String.join ((rest.drop 1).map (" if " ++ ·))
  | .slice lower upper step =>
    let (low, texts) := texts.splitAt lower.toNat
    let (high, texts) := texts.splitAt upper.toNat
    "".intercalate low ++ ":" ++ "".intercalate high ++ if step then ":" ++ "".intercalate texts else ""
  | _ => ""

mutual

def Node.text (inner : Bool) (demanded : Strength) : Node → String
  | .node .joined parts =>
    "f" ++ if inner then quoteWithoutEscapes (rawTexts parts) else quoteParts (rawParts parts)
  | .node shape children =>
    let plain := shape.assemble inner (texts inner (shape.demands children.length) children)
    if shape.strength children.length < demanded then bracketed "(" ")" plain else plain

def texts (inner : Bool) (demands : List Strength) : List Node → List String
  | [] => []
  | t :: ts => Node.text inner (demands.headD .choice) t :: texts inner (demands.drop 1) ts

def rawText : Node → String
  | .node .joined parts => rawTexts parts
  | .node (.formatted conversion) parts =>
    let shown := match conversion with
      | some c => "!" ++ String.singleton c
      | none => ""
    "\x7b" ++ formattedText shown parts ++ "\x7d"
  | .node (.constant (.string s _)) _ => doubleBraces s
  | _ => ""

def formattedText (shown : String) : List Node → String
  | [] => ""
  | value :: format =>
    let v := Node.text true (Strength.next .choice) value
    (if v.startsWith "\x7b" then " " else "") ++ v ++ shown ++ formatText format

def formatText : List Node → String
  | [] => ""
  | format :: _ => ":" ++ rawText format

def rawTexts : List Node → String
  | [] => ""
  | t :: ts => rawText t ++ rawTexts ts

def rawParts : List Node → List (String × Bool)
  | [] => []
  | t :: ts => (rawText t, match t with | .node (.constant _) _ => true | _ => false) :: rawParts ts

end

def Node.canonical (t : Node) : String := Node.text false .choice t

end Demarcation.Python.Strict
