import Demarcation.Language.Strict.Literal
import Demarcation.Language.Strict.Token
import Demarcation.Language.PythonVocabulary

namespace Demarcation.Python.Strict

open Grammar Grammar.Reader

abbrev Reader (α : Type) := Grammar.Reader TokenKind Unit α

inductive Rule where
  | expression
  | disjunction
  | inversion
  | operand
  | factor
  | primary
  | tuple
  | pattern
  | block
deriving DecidableEq, Repr

def isMark (text : String) (t : Token) : Bool := t.kind == .mark && t.text == text

def isWord (text : String) (t : Token) : Bool := t.kind == .word && t.text == text

def mark (text : String) : Reader Token := token (isMark text)

def word (text : String) : Reader Token := token (isWord text)

def ofKind (kind : TokenKind) : Reader Token := token (·.kind == kind)

def oneOf (marks : List String) : Reader Token := token fun t => t.kind == .mark && marks.contains t.text

def keywords : List String := "async" :: "await" :: reserved

def isName (t : Token) : Bool := t.kind == .word && !keywords.contains t.text

def name : Reader String := return (← token isName).text

def isNameBefore (text : String) : Reader Bool := do
  match (← get).tokens with
  | a :: b :: _ => return isName a && isMark text b
  | _ => return false

def between {α : Type} (opening closing : String) (p : Reader α) : Reader α := do
  let _ ← mark opening
  let a ← p
  let _ ← mark closing
  return a

def commaList {α : Type} (p : Reader α) : Reader (List α) := do
  return (← optional (listed p (mark ","))).getD []

def tupleOf (p : Reader Node) : Reader Node := do
  let first ← p
  let rest ← many (do let _ ← mark ","; p)
  let ending ← optional (mark ",")
  return if rest.isEmpty && ending.isNone then first else .node .tuple (first :: rest)

def Shape.isPlace : Shape → Bool
  | .name _ | .attribute _ _ | .subscript _ => true
  | _ => false

mutual

def Node.isTarget (stars : Bool) : Node → Bool
  | .node .tuple ts | .node .list ts => areTargets stars ts
  | .node shape _ => shape.isPlace

def areTargets (stars : Bool) : List Node → Bool
  | [] => true
  | t :: ts => isEntry stars t && areTargets stars ts

def isEntry (stars : Bool) : Node → Bool
  | .node .starred [t] => stars && t.isTarget stars
  | t => t.isTarget stars

end

def Node.isStarTarget : Node → Bool := isEntry true

def Node.isStarred (t : Node) : Bool := t.shape == .starred

end Demarcation.Python.Strict
