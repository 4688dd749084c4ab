import Demarcation.Grammar.Tree

/-!
Reading a list of tokens. A reader takes tokens from the front and gives a result, or it fails; an alternative is
tried only if the one before it fails.
-/

namespace Demarcation.Grammar

structure Token (κ : Type) where
  kind : κ
  text : String
  /-- The text from the token on. -/
  source : List Char
  start : Nat
  stop : Nat
  line : Nat
  /-- Whether the token is the first one of its line. -/
  fresh : Bool
  indent : Nat := 0

structure Cursor (κ σ : Type) where
  tokens : List (Token κ)
  stop : Nat := 0
  mode : σ

abbrev Reader (κ σ α : Type) := StateT (Cursor κ σ) Option α

namespace Reader

variable {κ σ ν α β : Type}

def peek? : Reader κ σ (Option (Token κ)) := return (← get).tokens.head?

def mode : Reader κ σ σ := return (← get).mode

def token (fits : Token κ → Bool) : Reader κ σ (Token κ) := fun c =>
  match c.tokens with
  | [] => none
  | t :: ts => if fits t then some (t, { c with tokens := ts, stop := t.stop }) else none

def isNext (fits : Token κ → Bool) : Reader κ σ Bool := return (← get).tokens.head?.any fits

/-- As many results as there are, each of which takes a token. -/
def many (p : Reader κ σ α) : Reader κ σ (List α) := fun c => some (go c.tokens.length c)
where
  go : Nat → Cursor κ σ → List α × Cursor κ σ
    | 0, c => ([], c)
    | fuel + 1, c =>
      match p c with
      | some (a, d) =>
        if d.tokens.length < c.tokens.length then
          let (as, d) := go fuel d
          (a :: as, d)
        else ([], c)
      | none => ([], c)

def separated (p : Reader κ σ α) (separator : Reader κ σ β) : Reader κ σ (List α) := do
  return (← p) :: (← many (do let _ ← separator; p))

def listed (p : Reader κ σ α) (separator : Reader κ σ β) : Reader κ σ (List α) := do
  let as ← separated p separator
  let _ ← optional separator
  return as

def within (mode : σ) (p : Reader κ σ α) : Reader κ σ α := fun c =>
  match p { c with mode } with
  | some (a, d) => some (a, { d with mode := c.mode })
  | none => none

def firstOf : List (Reader κ σ α) → Reader κ σ α
  | [] => failure
  | p :: ps => fun c =>
    match p c with
    | some r => some r
    | none => firstOf ps c

def nodeOf (p : Reader κ σ (ν × List (Tree ν))) : Reader κ σ (Tree ν) := fun c =>
  match p c with
  | none => none
  | some ((kind, children), d) =>
    match c.tokens with
    | [] => some (.node kind 0 [] 0 children, d)
    | t :: _ => some (.node kind t.line t.source (d.stop - t.start) children, d)

def node (kind : ν) (p : Reader κ σ (List (Tree ν))) : Reader κ σ (Tree ν) := nodeOf do return (kind, ← p)

def leaf (kind : ν) (p : Reader κ σ α) : Reader κ σ (Tree ν) := node kind (do let _ ← p; return [])

def extend (kind : ν) (first : Tree ν) (start : Nat) (p : Reader κ σ (List (Tree ν))) : Reader κ σ (Tree ν) := fun c =>
  match p c with
  | none => none
  | some (children, d) =>
    match first with
    | .node _ line source _ _ => some (.node kind line source (d.stop - start) (first :: children), d)

def start : Reader κ σ Nat := return ((← get).tokens.head?.map (·.start)).getD 0

def run (p : Reader κ σ α) (mode : σ) (tokens : List (Token κ)) : Option α := (p ⟨tokens, 0, mode⟩).map (·.1)

end Reader

end Demarcation.Grammar
