import Demarcation.Text.Lowercase

namespace Demarcation.Text

/-- Whether a new word of a camel-case name begins with `c`: after a lower-case letter or a digit every capital
begins one, and in a run of capitals the one that a lower-case letter follows. -/
def startsWord (before : Option Char) (c : Char) (after : Option Char) : Bool :=
  c.isUpper && before.any fun b =>
    b.isLower || b.isDigit || (b.isUpper && after.any Char.isLower)

/-- The words of a name. `word` holds the letters of the current word, last one first. -/
def words (word : List Char) (before : Option Char) : List Char → List (List Char)
  | [] => [word.reverse]
  | c :: cs =>
    if c.isAlphanum then
      if startsWord before c cs.head? then word.reverse :: words [c] (some c) cs
      else words (c :: word) (some c) cs
    else word.reverse :: words [] (some c) cs

def nameTokens (name : String) : List String :=
  ((words [] none name.toList).filter fun w => 2 < w.length).map fun w => String.ofList (w.map Char.toLower)

def markWords (before : Option Char) : List Char → List Char
  | [] => []
  | c :: cs =>
    if startsWord before c cs.head? then '_' :: c :: markWords (some c) cs else c :: markWords (some c) cs

def snakeCase (name : String) : String := String.ofList (lowerFrom [] (markWords none name.toList))

end Demarcation.Text
