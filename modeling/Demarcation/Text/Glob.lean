namespace Demarcation.Text.Glob

structure CharSet where
  excluded : Bool
  ranges : List (Char × Char)

inductive Token where
  | star
  | anyChar
  | char (c : Char)
  | oneOf (set : CharSet)

def CharSet.admits (set : CharSet) (c : Char) : Bool :=
  set.excluded != set.ranges.any fun r => decide (r.1 ≤ c) && decide (c ≤ r.2)

/-- Where a bracket ends: the text inside and the rest after the closing bracket. A closing bracket right at the
beginning, or after an exclamation mark, is part of the text. -/
def splitBracket (cs : List Char) : Option (List Char × List Char) :=
  let (mark, cs) := match cs with
    | '!' :: cs => (['!'], cs)
    | cs => ([], cs)
  let (first, cs) := match cs with
    | ']' :: cs => ([']'], cs)
    | cs => ([], cs)
  let inside := cs.takeWhile (· ≠ ']')
  match cs.dropWhile (· ≠ ']') with
  | ']' :: rest => some (mark ++ first ++ inside, rest)
  | _ => none

/-- Cuts the text of a bracket at the hyphens that form ranges. A hyphen is looked for from position `from` of the
text on; `from` counts within `cs`. -/
def chunks : Nat → Nat → List Char → List (List Char)
  | 0, _, cs => [cs]
  | fuel + 1, start, cs =>
    let head := cs.take start
    let tail := cs.drop start
    let before := tail.takeWhile (· ≠ '-')
    match tail.dropWhile (· ≠ '-') with
    | '-' :: rest => (head ++ before) :: chunks fuel 2 rest
    | _ => [cs]

def closeChunks : List (List Char) → List (List Char)
  | [c, []] => [c ++ ['-']]
  | c :: cs => c :: closeChunks cs
  | [] => []

def dropEmptyRanges (pieces : List (List Char)) : List (List Char) :=
  pieces.foldr (fun piece rest =>
    match rest with
    | [] => [piece]
    | next :: more =>
      match piece.getLast?, next.head? with
      | some a, some b => if b < a then (piece.dropLast ++ next.drop 1) :: more else piece :: next :: more
      | _, _ => piece :: next :: more) []

def rangesOf : List (List Char) → List (Char × Char)
  | [] => []
  | [piece] => piece.map fun c => (c, c)
  | piece :: next :: more =>
    let joint := match piece.getLast?, next.head? with
      | some a, some b => [(a, b)]
      | _, _ => []
    piece.map (fun c => (c, c)) ++ joint ++ rangesOf (next :: more)

/-- What the text of a bracket admits; `none` admits nothing. -/
def bracket (text : List Char) : Option Token :=
  let start := if text.head? = some '!' then 2 else 1
  let pieces := if text.contains '-' then dropEmptyRanges (closeChunks (chunks text.length start text)) else [text]
  match pieces with
  | [] => none
  | [[]] => none
  | [['!']] => some .anyChar
  | ('!' :: piece) :: more => some (.oneOf ⟨true, rangesOf (piece :: more)⟩)
  | pieces => some (.oneOf ⟨false, rangesOf pieces⟩)

/-- The tokens of a pattern. Neighbouring stars count as one, and a bracket that is not closed stands for itself. -/
def tokens : Nat → List Char → List (Option Token)
  | 0, _ => []
  | _, [] => []
  | fuel + 1, c :: cs =>
    match c with
    | '*' =>
      match tokens fuel cs with
      | some .star :: ts => some .star :: ts
      | ts => some .star :: ts
    | '?' => some .anyChar :: tokens fuel cs
    | '[' =>
      match splitBracket cs with
      | some (text, rest) => bracket text :: tokens fuel rest
      | none => some (.char '[') :: tokens fuel cs
    | c => some (.char c) :: tokens fuel cs

def matchTokens : List (Option Token) → List Char → Bool
  | [], cs => cs.isEmpty
  | none :: _, _ => false
  | some .star :: ts, cs => go ts cs
  | some .anyChar :: ts, cs =>
    match cs with
    | [] => false
    | _ :: cs => matchTokens ts cs
  | some (.char a) :: ts, cs =>
    match cs with
    | [] => false
    | c :: cs => a == c && matchTokens ts cs
  | some (.oneOf set) :: ts, cs =>
    match cs with
    | [] => false
    | c :: cs => set.admits c && matchTokens ts cs
where
  go (ts : List (Option Token)) : List Char → Bool
    | [] => matchTokens ts []
    | c :: cs => matchTokens ts (c :: cs) || go ts cs

def accepts (pattern path : String) : Bool :=
  let cs := pattern.toList
  matchTokens (tokens cs.length cs) path.toList

end Demarcation.Text.Glob
