import Demarcation.Language.GoSyntax

namespace Demarcation.Go

open Grammar Grammar.Reader

variable (self : Rule → Reader Tree)

def typeElement : Reader Tree := node .other (separated (self .type) (mark "|"))

def typeArguments : Reader (List Tree) := between "[" "]" .bracketed (listed (typeElement self) (mark ","))

def namedType : Reader Tree := do
  let start ← start
  let plain ← firstOf [
    node .other do
      let package ← leaf .other (token isName)
      let _ ← adjoining (mark ".")
      return [package, ← wordAs .typeName],
    nameAs .typeName]
  match ← optional (adjoining (typeArguments self)) with
  | some arguments => extend .other plain start (return arguments)
  | none => return plain

def typeParameter : Reader Tree := node .other do
  let names ← separated (nameAs .name) (mark ",")
  return names ++ [← typeElement self]

def typeParameters : Reader Tree :=
  node .other (between "[" "]" .bracketed (listed (typeParameter self) (mark ",")))

def typed : Reader Tree := node .type do return [← self .type]

def parameter : Reader Tree := firstOf [
  node .variadic do
    let name ← optional (nameAs .name)
    let _ ← mark "..."
    return name.toList ++ [← typed self],
  node .parameter do
    let names ← separated (nameAs .name) (mark ",")
    return names ++ [← typed self],
  node .parameter do return [← typed self]]

def parameters : Reader Tree := node .parameters (between "(" ")" .bracketed (commaList (parameter self)))

def result? : Reader (Option Tree) := optional do
  sameLine
  node .result do
    if ← isNext (isMark "(") then return [← self .parameters] else return [← self .type]

def signature : Reader (List Tree) := do
  let parameters ← self .parameters
  return parameters :: (← result? self).toList

def tag? : Reader Unit := do
  let _ ← optional (adjoining (token (·.kind == .text)))

/-- Whether a field ends here. A line break ends it only if another field can begin after it. -/
def endsField : Reader Bool := do
  let tokens := (← get).tokens
  return tokens.head?.any fun t =>
    isMark "\x7d" t || isMark ";" t || t.fresh && (isName t || isMark "*" t && tokens[1]?.any isName)

/-- A type whose fields are taken over, or fields of one type. A name with brackets after it is a type with arguments if
the field ends there, and a field with the type of a list otherwise. -/
def field : Reader Tree := node .field (firstOf [
  do
    let _ ← optional (mark "*")
    let type ← node .type do return [← namedType self]
    tag?
    if !(← endsField) then failure
    return [type],
  do
    let names ← separated (nameAs .name) (mark ",")
    sameLine
    let type ← typed self
    tag?
    return names ++ [type]])

def method : Reader Tree := node .method do
  let name ← wordAs .name
  return name :: (← signature self)

def structType : Reader Tree := node .structType do
  let _ ← word "struct"
  between "\x7b" "\x7d" .statement (terminated (field self))

def interfaceType : Reader Tree := node .interfaceType do
  let _ ← word "interface"
  between "\x7b" "\x7d" .statement (terminated (firstOf [method self, typeElement self]))

def mapType : Reader Tree := node .other do
  let _ ← word "map"
  let key ← between "[" "]" .bracketed (self .type)
  return [key, ← self .type]

def channelType : Reader Tree := node .other do
  if ← isNext (isMark "<-") then
    let _ ← mark "<-"
    let _ ← word "chan"
    return [← self .type]
  else
    let _ ← word "chan"
    let _ ← optional (mark "<-")
    return [← self .type]

def functionType : Reader Tree := node .other do
  let _ ← word "func"
  signature self

def arrayType : Reader Tree := node .other do
  let length ← between "[" "]" .bracketed (optional (firstOf [
    do let _ ← mark "..."; return none,
    some <$> self .expression]))
  return (length.getD none).toList ++ [← self .type]

def type : Reader Tree := do
  match ← peek? with
  | none => failure
  | some t =>
    if isWord "struct" t then structType self
    else if isWord "interface" t then interfaceType self
    else if isWord "map" t then mapType self
    else if isWord "chan" t || isMark "<-" t then channelType self
    else if isWord "func" t then functionType self
    else if isMark "[" t then arrayType self
    else if isMark "*" t || isMark "~" t then
      node .other do
        let _ ← token fun _ => true
        return [← self .type]
    else if isMark "(" t then node .other do return [← between "(" ")" .bracketed (self .type)]
    else namedType self

end Demarcation.Go
