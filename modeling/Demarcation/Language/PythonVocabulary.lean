import Demarcation.Text.WordChar

namespace Demarcation.Python

open Text

def interfaceBases : List String := ["ABC", "Protocol", "Interface"]

def abstractMetaclass : String := "ABCMeta"

def builtinTypes : List String := [
  "Any", "Callable", "Dict", "FrozenSet", "Iterable", "Iterator", "List", "Mapping", "None", "Optional", "Sequence",
  "Set", "Tuple", "Type", "Union", "bool", "bytes", "dict", "float", "frozenset", "int", "list", "object", "set",
  "str", "tuple", "type", "typing"]

def tableMethods : List String := ["table", "Table", "from_"]

def modelMethods : List String := ["query", "Model", "model"]

def reserved : List String := [
  "False", "None", "True", "and", "as", "assert", "break", "class", "continue", "def", "del", "elif", "else", "except",
  "finally", "for", "from", "global", "if", "import", "in", "is", "lambda", "nonlocal", "not", "or", "pass", "raise",
  "return", "try", "while", "with", "yield"]

def startsIdentifier (c : Char) : Bool := c.isAlpha || c = '_'

/-- The names in a text. A name begins with a letter of the alphabet or an underscore; letters and digits before it
are passed over one by one. -/
def identifierChars : Nat → List Char → List (List Char)
  | 0, _ => []
  | _, [] => []
  | fuel + 1, c :: cs =>
    if startsIdentifier c then (c :: cs.takeWhile isWordChar) :: identifierChars fuel (cs.dropWhile isWordChar)
    else identifierChars fuel cs

def identifiersIn (s : String) : List String := (identifierChars s.length s.toList).map String.ofList

end Demarcation.Python
