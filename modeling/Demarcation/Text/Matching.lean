/-!
How much of two texts matches: the longest common block, then the longest ones to its left and right, and so on.
In a long second text, characters that make up more than a hundredth of it do not begin a block.
-/

namespace Demarcation.Text

structure Block where
  left : Nat
  right : Nat
  size : Nat

def rareChars (b : Array Char) : Char → Bool := fun c =>
  b.size < 200 || b.count c ≤ b.size / 100 + 1

/-- The length of the run that ends at each position of `b`, given the runs `lengths` that end one character
earlier in `a`. -/
def nextRuns (b : Array Char) (rare : Char → Bool) (c : Char) (lo hi : Nat) (lengths : Array Nat) : Array Nat :=
  (Array.range b.size).map fun j =>
    if lo ≤ j && j < hi && b[j]? == some c && rare c then (if j = 0 then 0 else lengths.getD (j - 1) 0) + 1 else 0

def longestRun (a b : Array Char) (rare : Char → Bool) (alo ahi blo bhi : Nat) : Block :=
  let step : Block × Array Nat → Nat → Block × Array Nat := fun (best, lengths) i =>
    match a[i]? with
    | none => (best, lengths)
    | some c =>
      let lengths := nextRuns b rare c blo bhi lengths
      let best := (List.range' blo (bhi - blo)).foldl (fun (best : Block) j =>
        let k := lengths.getD j 0
        if best.size < k then ⟨i + 1 - k, j + 1 - k, k⟩ else best) best
      (best, lengths)
  ((List.range' alo (ahi - alo)).foldl step (⟨alo, blo, 0⟩, Array.replicate b.size 0)).1

def agreeBefore (a b : Array Char) (alo blo : Nat) : Nat → Nat → Nat
  | i + 1, j + 1 => if alo ≤ i && blo ≤ j && a[i]? == b[j]? then agreeBefore a b alo blo i j + 1 else 0
  | _, _ => 0

def agreeFrom (a b : Array Char) : Nat → Nat → Nat → Nat
  | 0, _, _ => 0
  | fuel + 1, i, j => if a[i]? == b[j]? then agreeFrom a b fuel (i + 1) (j + 1) + 1 else 0

def longestBlock (a b : Array Char) (rare : Char → Bool) (alo ahi blo bhi : Nat) : Block :=
  let run := longestRun a b rare alo ahi blo bhi
  let back := agreeBefore a b alo blo run.left run.right
  let i := run.left + run.size
  let j := run.right + run.size
  let on := agreeFrom a b (min (ahi - i) (bhi - j)) i j
  ⟨run.left - back, run.right - back, back + run.size + on⟩

def matchedChars (a b : Array Char) (rare : Char → Bool) : Nat → Nat → Nat → Nat → Nat → Nat
  | 0, _, _, _, _ => 0
  | fuel + 1, alo, ahi, blo, bhi =>
    if alo < ahi && blo < bhi then
      let block := longestBlock a b rare alo ahi blo bhi
      if block.size = 0 then 0
      else block.size + matchedChars a b rare fuel alo block.left blo block.right
        + matchedChars a b rare fuel (block.left + block.size) ahi (block.right + block.size) bhi
    else 0

def matched (a b : List Char) : Nat :=
  matchedChars a.toArray b.toArray (rareChars b.toArray) (a.length + 1) 0 a.length 0 b.length

end Demarcation.Text
