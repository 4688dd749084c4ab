/-!
Abstract syntax trees. The children of a node stand in a fixed order that its shape tells, so that trees can be
visited without regard to their shapes: level by level, each from left to right.
-/

namespace Demarcation.Python.Strict

inductive Constant where
  | none
  | true
  | false
  | ellipsis
  | integer (n : Nat)
  | number (text : String)
  | string (s : String) (marked : Bool)
  | bytes (values : List Nat)
deriving DecidableEq, Repr, Inhabited

/-- How many parameters of each sort there are, in the order in which they are children: those given by position
only, the others, one that takes the rest, those given by name only, with the values that some of these have, one
that takes the rest by name, and the values of the last parameters that are not by name only. -/
structure ParameterList where
  positional : Nat := 0
  plain : Nat := 0
  rest : Bool := false
  named : List Bool := []
  namedRest : Bool := false
  values : Nat := 0
deriving DecidableEq, Repr, Inhabited

inductive Shape where
  | name (id : String)
  | constant (c : Constant)
  | joined
  | formatted (conversion : Option Char)
  /-- The flag tells that the value is a number that a point must not touch. -/
  | attribute (name : String) (apart : Bool)
  /-- The flag tells that the place is a tuple, which needs no parentheses there. -/
  | subscript (bare : Bool)
  /-- A function, arguments by position and arguments by name. -/
  | call (positional : Nat)
  | keyword (name : Option String)
  | starred
  | tuple
  | list
  | set
  /-- Keys, then values; an entry without a key stands for a whole dictionary. -/
  | dict (keyed : List Bool)
  | unary (operator : String)
  | binary (operator : String)
  | boolean (operator : String)
  | compare (operators : List String)
  | lambda
  | arguments (parameters : ParameterList)
  | parameter (name : String)
  /-- A condition, the value if it holds and the value if not. -/
  | conditional
  | named
  | await
  | yield
  | yieldFrom
  | listComprehension
  | setComprehension
  | dictComprehension
  | generator
  | comprehension (async : Bool)
  | slice (lower upper step : Bool)
  /-- Arguments, body, decorators and the type of the result. -/
  | function (name : String) (line : Nat) (body : Nat) (result : Bool)
  /-- Base classes, arguments by name, body and decorators. -/
  | classDefinition (name : String) (line : Nat) (bases keywords body : Nat)
  /-- A target, its type and perhaps its value. -/
  | typed
  | expression
  | other
deriving DecidableEq, Repr, Inhabited

inductive Node where
  | node (shape : Shape) (children : List Node)

namespace Node

instance : Inhabited Node := ⟨.node default []⟩

def shape : Node → Shape
  | node s _ => s

def children : Node → List Node
  | node _ cs => cs

def leaf (s : Shape) : Node := node s []

mutual

def count : Node → Nat
  | node _ cs => countAll cs + 1

def countAll : List Node → Nat
  | [] => 0
  | t :: ts => count t + countAll ts

end

theorem countAll_append (ts us : List Node) : countAll (ts ++ us) = countAll ts + countAll us := by
  induction ts with
  | nil => simp [countAll]
  | cons t ts ih => simp [countAll, ih]; omega

theorem count_eq (t : Node) : t.count = countAll t.children + 1 := by cases t; simp [count, children]

/-- The nodes of pending trees, level by level. Below the nodes where `stop` holds nothing is visited. -/
def visit (stop : Node → Bool) : List Node → List Node
  | [] => []
  | t :: pending => t :: visit stop (pending ++ if stop t then [] else t.children)
termination_by pending => countAll pending
decreasing_by
  rw [countAll_append, countAll, count_eq]
  split
  · simp only [countAll]; omega
  · omega

end Node

end Demarcation.Python.Strict
