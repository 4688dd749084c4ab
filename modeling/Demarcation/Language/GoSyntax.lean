import Demarcation.Language.GoToken

namespace Demarcation.Go

open Grammar

inductive Kind where
  | file
  | typeDeclaration
  | typeSpec
  | function
  | receiver
  | name
  | parameters
  | parameter
  | variadic
  | result
  | type
  | structType
  | field
  | interfaceType
  | method
  | typeName
  | block
  | identifier
  | selector
  | call
  | typeQuestion
  | other
deriving DecidableEq, Repr, Inhabited

abbrev Tree := Grammar.Tree Kind

structure Mode where
  breaks : Bool
  /-- Whether braces after the name of a type hold a value; before the block of a statement they do not. -/
  literals : Bool

namespace Mode

def statement : Mode := ⟨true, true⟩

def bracketed : Mode := ⟨false, true⟩

def header : Mode := ⟨false, false⟩

end Mode

abbrev Reader (α : Type) := Grammar.Reader TokenKind Mode α

open Grammar.Reader

inductive Rule where
  | type
  | expression
  | parameters
  | literalValue
  | block
  | statement
deriving DecidableEq, Repr

def isMark (text : String) (t : Token) : Bool := t.kind == .mark && t.text == text

def isWord (text : String) (t : Token) : Bool := t.kind == .word && t.text == text

def mark (text : String) : Reader Token := token (isMark text)

def word (text : String) : Reader Token := token (isWord text)

def typeWords : List String := ["func", "struct", "interface", "map", "chan"]

def isName (t : Token) : Bool := t.kind == .word && !typeWords.contains t.text

def nameAs (kind : Kind) : Reader Tree := leaf kind (token isName)

def wordAs (kind : Kind) : Reader Tree := leaf kind (token (·.kind == .word))

/-- The next token does not belong to what was read if a line ends before it and the mode heeds that. -/
def sameLine : Reader Unit := do
  if (← mode).breaks && (← isNext (·.fresh)) then failure

def adjoining {α : Type} (p : Reader α) : Reader α := do
  sameLine
  p

def terminator : Reader Unit := do
  if ← isNext (isMark ";") then
    let _ ← mark ";"
  else if ← isNext (·.fresh) then return
  else failure

def between {α : Type} (opening closing : String) (mode : Mode) (p : Reader α) : Reader α := do
  let _ ← mark opening
  let a ← within mode p
  let _ ← mark closing
  return a

def commaList {α : Type} (p : Reader α) : Reader (List α) := do
  return (← optional (listed p (mark ","))).getD []

def terminated {α : Type} (p : Reader α) : Reader (List α) := do
  match ← optional p with
  | none => return []
  | some a =>
    let as ← many (do terminator; p)
    let _ ← optional terminator
    return a :: as

end Demarcation.Go
