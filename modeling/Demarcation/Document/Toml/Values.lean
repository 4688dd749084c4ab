import Demarcation.Document.Toml.Scalars

/-!
TOML values and the lines `key = value`. Lists are cut at their commas, so a text with a comma is put together again
from its pieces; the same holds for inline tables.
-/

namespace Demarcation.Document.Toml

open Text

variable {R : Type} [Scalar R]

def strip (cs : List Char) : List Char := stripChars cs

def quoteSplits (line : List Char) : List (List Char) :=
  match splitAll '"' line with
  | first :: second :: rest =>
    if first.contains '\'' then
      let (singles, doubles) := absorb (splitAll '\'' first) (second :: rest)
      singles ++ alternate doubles
    else alternate (first :: second :: rest)
  | pieces => alternate pieces
where
  absorb (singles : List (List Char)) : List (List Char) → List (List Char) × List (List Char)
    | [] => (singles, [])
    | piece :: doubles =>
      if singles.length % 2 = 0 then
        let last := singles.getLastD [] ++ '"' :: piece
        let pieces := if last.contains '\'' then splitAll '\'' last else [last]
        absorb (singles.dropLast ++ pieces) doubles
      else (singles, piece :: doubles)
  alternate : List (List Char) → List (List Char)
    | [] => []
    | piece :: pieces => splitAll '\'' piece ++ pieces

def cutCount (c : Char) : Bool → Nat → List (List Char) → Nat
  | _, n, [] => n
  | quoted, n, piece :: pieces =>
    if !quoted && piece.contains c then n else cutCount c (!quoted) (n + piece.count c) pieces

def isBounded (v : List Char) : Bool :=
  match v with
  | [] => true
  | c :: cs => v.getLast? == some c && !endsEscaped cs.dropLast

def isWholeText (v : List Char) : Bool :=
  isBounded v && !(match v with
    | a :: b :: c :: _ =>
      a == b && b == c && v[v.length - 2]? != some a && v[v.length - 3]? != some a
    | _ => false)

/-- The texts of a list, put together from pieces between commas; `piece` is the beginning of a text that is not
whole yet. The last piece is taken as it is. -/
def joinTexts : Option (List Char) → List (List Char) → Except Fault (List (List Char))
  | none, [] => .ok []
  | some _, [] => .error .noSuchPosition
  | none, [piece] => .ok [piece]
  | begun, next :: pieces =>
    let piece := match begun with
      | some piece => piece ++ ',' :: next
      | none => next
    if isWholeText (strip piece) then do return piece :: (← joinTexts none pieces)
    else joinTexts (some piece) pieces

def braceGroups : Nat → List Char → Nat → Bool → List Char → List (List Char)
  | 0, _, _, _, _ => []
  | _, _, _, _, [] => []
  | fuel + 1, group, depth, inText, c :: cs =>
    let inText :=
      if c = '"' ∨ c = '\'' then (if inText && (group.takeWhile (· = '\\')).length % 2 = 1 then inText else !inText)
      else inText
    if inText then braceGroups fuel (c :: group) depth inText cs
    else if c = '\x7b' then braceGroups fuel (c :: group) (depth + 1) inText cs
    else if c ≠ '\x7d' then braceGroups fuel (c :: group) depth inText cs
    else if 1 < depth then braceGroups fuel (c :: group) (depth - 1) inText cs
    else
      (c :: group).reverse :: match (cs.drop 1).dropWhile (· ≠ '\x7b') with
        | [] => []
        | brace :: rest => braceGroups fuel [brace] depth inText rest

def bracketGroups : List Char → Int → List Char → List (List Char)
  | group, _, [] => [group.reverse]
  | group, depth, c :: cs =>
    if c = '[' then bracketGroups (c :: group) (depth + 1) cs
    else if c = ']' then bracketGroups (c :: group) (depth - 1) cs
    else if c = ',' ∧ depth = 0 then group.reverse :: bracketGroups [] depth cs
    else bracketGroups (c :: group) depth cs

def isTextList (v : List Char) : Bool :=
  match strip (inside v) with
  | c :: _ => c = '"' ∨ c = '\''
  | [] => false

def listItems (v : List Char) : Except Fault (List (List Char)) :=
  let content := inside v
  if content.contains '[' ∧ (strip (content.takeWhile (· ≠ '['))).isEmpty then .ok (bracketGroups [] 0 content)
  else
    let items :=
      if (strip content).head? = some '\x7b' then
        match content with
        | c :: cs => braceGroups content.length [c] (if c = '\x7b' then 1 else 0) false cs
        | [] => []
      else splitAll ',' content
    if isTextList v then joinTexts none items else .ok items

def isWholeEntry (piece : List Char) : Except Fault Bool :=
  match splitFirst '=' 1 piece with
  | [_, v] =>
    let v := strip v
    match v with
    | [] => .error .noSuchPosition
    | c :: _ =>
      let last := v.getLast?
      .ok (((c = '"' ∨ c = '\'') ∧ last = some c) ∨ c = '-' ∨ c.isDigit ∨ v = ['t', 'r', 'u', 'e']
        ∨ v = ['f', 'a', 'l', 's', 'e'] ∨ (c = '[' ∧ last = some ']') ∨ (c = '\x7b' ∧ last = some '\x7d'))
  | _ => .error .badToml

def joinEntries (piece : List Char) : List (List Char) → Except Fault (List (List Char))
  | [] => do
    require (← isWholeEntry piece)
    return [piece]
  | next :: pieces => do
    if ← isWholeEntry piece then return piece :: (← joinEntries next pieces)
    else joinEntries (piece ++ ',' :: next) pieces

def tableItems (v : List Char) : Except Fault (List (List Char)) :=
  match splitAll ',' (inside v) with
  | [] => .ok []
  | [piece] => if (strip piece).isEmpty then .ok [] else joinEntries piece []
  | piece :: pieces => joinEntries piece pieces

/-- Whether the text after an equals sign is a value as it stands: it begins with a blank, a bracket or a quotation
mark, or it is a word, a number or a date. -/
def isPlausible (v : List Char) : Bool :=
  match v with
  | [] => true
  | c :: _ =>
    [' ', '\t', '\'', '"', '[', '\x7b'].contains c || strip v == ['t', 'r', 'u', 'e']
      || strip v == ['f', 'a', 'l', 's', 'e'] || (Decimal.readNumeral? (String.ofList v)).isSome || (readDate? v).isSome
      || (timeParts? v).isSome

/-- Cuts a line at later equals signs until what follows is plausible. Also tells whether the first cut was right. -/
def cutEntry (line : List Char) : Nat → Nat → List (List Char) → Bool → Except Fault (List (List Char) × Bool)
  | 0, _, _, _ => .error .badToml
  | fuel + 1, n, pieces, strict =>
    let last := pieces.getLastD []
    if isPlausible last then .ok (pieces, strict)
    else
      let pieces := splitFirst '=' (n + 1) line
      if pieces.getLastD [] = last then .error .badToml else cutEntry line fuel (n + 1) pieces false

def splitEntry (line : List Char) : Except Fault (List Char × List Char × Bool) := do
  let n := cutCount '=' false 1 (quoteSplits line)
  let pieces := splitFirst '=' n line
  let last := pieces.getLastD []
  let last := if last.head?.any Char.isDigit then last.filter (· ≠ '_') else last
  let (pieces, strict) ← cutEntry line line.length n (pieces.dropLast ++ [last]) true
  return (strip (join '=' pieces.dropLast), strip (pieces.getLastD []), strict)

def keyParts (key : List Char) : List (List Char) :=
  if key.contains '"' ∨ key.contains '\'' then go false (quoteSplits key) else splitAll '.' key
where
  go : Bool → List (List Char) → List (List Char)
    | _, [] => []
    | true, piece :: pieces => piece :: go false pieces
    | false, piece :: pieces => (splitAll '.' piece).map strip ++ go true pieces

def readKey (key : List Char) : Except Fault (List String × String) :=
  if key.contains '.' then
    let parts := ((keyParts key).reverse.dropWhile List.isEmpty).reverse
    match parts.getLast? with
    | none => .error .noSuchPosition
    | some last =>
      .ok ((parts.dropLast.filter fun p => !p.isEmpty).map String.ofList, String.ofList (strip last))
  else
    match key with
    | [] => .error .noSuchPosition
    | c :: _ =>
      if (c = '"' ∨ c = '\'') ∧ key.getLast? = some c then do
        return ([], String.ofList (← unescape (inside key)))
      else .ok ([], String.ofList key)

def lastText (piece : List Char) : List (List Char) → Except Fault (List Char)
  | [] => .ok piece
  | before :: pieces =>
    match piece with
    | [] => .error .noSuchPosition
    | c :: _ => if c = '"' ∨ c = '\'' then .ok piece else lastText (before ++ ',' :: piece) pieces

def openItem (v : List Char) : Except Fault (List Char) :=
  if v.head? = some '[' ∧ (strip v).getLast? ≠ some ']' ∧ isTextList v then
    match (splitAll ',' (strip (v.drop 1))).reverse with
    | [] => .ok []
    | piece :: pieces => lastText piece pieces
  else .ok v

def opensLongText (v : List Char) : Except Fault Bool :=
  if v.length < 3 then .ok false
  else do
    match ← openItem v with
    | a :: b :: c :: rest =>
      return (a == '"' || a == '\'') && b == a && c == a
        && !(2 < rest.length && (rest.drop (rest.length - 3)).all (· == a))
    | _ => return false

def insertAt (key : String) (value : Option (Document R)) : List String → Document R → Except Fault (Document R)
  | [], .table entries =>
    match find? key entries with
    | some _ => .error .badToml
    | none => .ok (.table (match value with | some v => put key v entries | none => entries))
  | [], _ => .error .badToml
  | level :: levels, .table entries => do
    let below := (find? level entries).getD (.table [])
    return .table (put level (← insertAt key value levels below) entries)
  | _ :: _, _ => .error .wrongType

structure LongText where
  key : String
  read : List Char
  /-- Whether the last line ended with a backslash, which swallows the line break. -/
  joined : Bool

def LongText.ofLine (key : String) (v : List Char) : LongText :=
  if endsEscaped v then ⟨key, v.dropLast, true⟩ else ⟨key, v ++ ['\n'], false⟩

mutual

def readValue (strict : Bool) : Nat → List Char → Except Fault (Document R × Kind)
  | 0, _ => .error .badToml
  | fuel + 1, v =>
    match v with
    | [] => .error .badToml
    | c :: _ =>
      let word := v.map Char.toLower
      if v = ['t', 'r', 'u', 'e'] then .ok (.bool true, .bool)
      else if v = ['f', 'a', 'l', 's', 'e'] then .ok (.bool false, .bool)
      else if word = ['t', 'r', 'u', 'e'] ∨ word = ['f', 'a', 'l', 's', 'e'] then .error .badToml
      else if c = '"' ∨ c = '\'' then do return (.text (← readText c v), .text)
      else if c = '[' then do
        let items ← readItems fuel none (← listItems (strip v))
        return (.list items, .list)
      else if c = '\x7b' then do return (← readEntries fuel (.table []) (← tableItems v), .table)
      else readPlain strict v

def readItems : Nat → Option Kind → List (List Char) → Except Fault (List (Document R))
  | 0, _, _ => .error .badToml
  | _, _, [] => .ok []
  | fuel + 1, kind, item :: items => do
    let item := strip item
    if item.isEmpty then readItems fuel kind items
    else
      let (value, found) ← readValue true fuel item
      require (kind.all (· = found))
      return value :: (← readItems fuel (some found) items)

def readEntries : Nat → Document R → List (List Char) → Except Fault (Document R)
  | 0, _, _ => .error .badToml
  | _, d, [] => .ok d
  | fuel + 1, d, line :: lines => do
    match ← readEntry fuel d line with
    | (d, none) => readEntries fuel d lines
    | (d, some _) => return d

def readEntry : Nat → Document R → List Char → Except Fault (Document R × Option LongText)
  | 0, _, _ => .error .badToml
  | fuel + 1, d, line => do
    let (key, v, strict) ← splitEntry line
    let (levels, key) ← readKey key
    if ← opensLongText v then return (← insertAt key none levels d, some (.ofLine key v))
    else
      let (value, _) ← readValue strict fuel v
      return (← insertAt key (some value) levels d, none)

end

end Demarcation.Document.Toml
