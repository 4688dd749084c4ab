import Demarcation.Text.Path

namespace Demarcation

open Text

inductive Language where
  | go
  | python
deriving DecidableEq, Repr

namespace Language

def name : Language → String
  | .go => "go"
  | .python => "python"

def suffixes : List (String × Language) := [(".go", .go), (".py", .python)]

def ofPath? (path : String) : Option Language := suffixes.lookup (suffix path)

end Language

end Demarcation
