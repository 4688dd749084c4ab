import Demarcation.Language.PythonToken
import Demarcation.Language.PythonVocabulary

namespace Demarcation.Python

open Grammar

inductive Kind where
  | module
  | block
  | function
  | classDefinition
  | decorated
  | expressionStatement
  | assignment
  | parameters
  | typedParameter
  | defaultParameter
  | type
  | result
  | identifier
  | attribute
  | subscript
  | call
  | arguments
  | keywordArgument
  | string
  | content
  | splat
  | tuple
  | list
  | parenthesized
  | other
deriving DecidableEq, Repr, Inhabited

abbrev Tree := Grammar.Tree Kind

structure Mode where
  breaks : Bool
  bracketed : Bool
  indent : Nat

abbrev Reader (α : Type) := Grammar.Reader TokenKind Mode α

open Grammar.Reader

inductive Rule where
  | expression
  | comparison
  | primary
  | type
  | pattern
  | casePattern
  | simpleCase
  | suite
  | statement
deriving DecidableEq, Repr

def isOutside (m : Mode) (t : Token) : Bool :=
  t.fresh && !m.bracketed && decide (t.indent < m.indent) && t.kind != .opening

def take (fits : Token → Bool) : Reader Token := do
  let m ← mode
  token fun t => fits t && !isOutside m t

def isMark (text : String) (t : Token) : Bool := t.kind == .mark && t.text == text

def isWord (text : String) (t : Token) : Bool := t.kind == .word && t.text == text

def mark (text : String) : Reader Token := take (isMark text)

def word (text : String) : Reader Token := take (isWord text)

def oneOf (marks : List String) : Reader Token := take fun t => t.kind == .mark && marks.contains t.text

def isName (t : Token) : Bool := t.kind == .word && !reserved.contains t.text

def identifier : Reader Tree := leaf .identifier (take isName)

def sameLine : Reader Unit := do
  if (← mode).breaks && (← isNext (·.fresh)) then failure

def lineEnd : Reader Unit := do
  if ← isNext (·.fresh) then return else failure

def between {α : Type} (opening closing : String) (p : Reader α) : Reader α := do
  let _ ← mark opening
  let m ← mode
  within { m with breaks := false, bracketed := true } do
    let a ← p
    let _ ← mark closing
    return a

def header {α : Type} (p : Reader α) : Reader α := do
  let m ← mode
  within { m with breaks := false } p

def line {α : Type} (p : Reader α) : Reader α := do
  let m ← mode
  within { m with breaks := true, bracketed := false } p

def commaList {α : Type} (p : Reader α) : Reader (List α) := do
  return (← optional (listed p (mark ","))).getD []

end Demarcation.Python
