import Demarcation.Text.Split

namespace Demarcation.Text

def splitAfterLast (c : Char) (cs : List Char) : List Char × List Char :=
  let tail := (cs.reverse.takeWhile (· ≠ c)).reverse
  (cs.take (cs.length - tail.length), tail)

/-- The path of the directory that holds a file; empty for a bare file name. Slashes at the end are dropped unless
nothing else is left. -/
def parentPath (path : String) : String :=
  let head := (splitAfterLast '/' path.toList).1
  if head.all (· = '/') then String.ofList head
  else String.ofList (head.reverse.dropWhile (· = '/')).reverse

def baseName (path : String) : String := String.ofList (splitAfterLast '/' path.toList).2

def directoryOf (path : String) : String :=
  let parent := parentPath path
  if parent.isEmpty then "." else parent

def directoryName (path : String) : String :=
  let parent := parentPath path
  if parent.isEmpty then "root" else baseName parent

def beforeLast (c : Char) (s : String) : String :=
  let (head, _) := splitAfterLast c s.toList
  if head.isEmpty then s else String.ofList head.dropLast

def afterLast (c : Char) (s : String) : String := String.ofList (splitAfterLast c s.toList).2

def components (path : String) : List String :=
  ((splitAll '/' path.toList).map String.ofList).filter fun part => part ≠ "" ∧ part ≠ "."

def normalPath (path : String) : String :=
  let text := "/".intercalate (components path)
  if path.startsWith "/" then "/" ++ text else if text.isEmpty then "." else text

/-- The suffix of a file name from its last point on: empty if the point is the first or the last character. -/
def suffix (path : String) : String :=
  match (components path).getLast? with
  | none => ""
  | some name =>
    let (head, tail) := splitAfterLast '.' name.toList
    if head.length ≤ 1 ∨ tail.isEmpty then "" else String.ofList ('.' :: tail)

end Demarcation.Text
