import Demarcation.Moment
import Demarcation.Scalar
import Demarcation.Text.Quoted

namespace Demarcation

open Text

inductive Document (R : Type) where
  | null
  | bool (b : Bool)
  | int (i : Int)
  | number (x : R)
  | text (s : String)
  | moment (m : Moment)
  | list (items : List (Document R))
  | table (entries : List (String × Document R))
deriving Inhabited

namespace Document

variable {R : Type}

def find? (key : String) : List (String × Document R) → Option (Document R)
  | [] => none
  | (k, v) :: rest => if k = key then some v else find? key rest

def put (key : String) (value : Document R) : List (String × Document R) → List (String × Document R)
  | [] => [(key, value)]
  | (k, v) :: rest => if k = key then (k, value) :: rest else (k, v) :: put key value rest

theorem find?_put_self (key : String) (value : Document R) (entries : List (String × Document R)) :
    find? key (put key value entries) = some value := by
  induction entries with
  | nil => simp [put, find?]
  | cons e rest ih =>
    by_cases h : e.1 = key
    · simp [put, find?, h]
    · simp [put, find?, h, ih]

theorem find?_put_of_ne {key other : String} (h : other ≠ key) (value : Document R)
    (entries : List (String × Document R)) : find? other (put key value entries) = find? other entries := by
  induction entries with
  | nil => simp [put, find?, Ne.symm h]
  | cons e rest ih =>
    by_cases hk : e.1 = key
    · simp [put, find?, hk, Ne.symm h]
    · by_cases ho : e.1 = other
      · simp [put, find?, ho, h]
      · simp [put, find?, hk, ho, ih]

def putAll (entries more : List (String × Document R)) : List (String × Document R) :=
  more.foldl (fun es e => put e.1 e.2 es) entries

def getD (d : Document R) (key : String) (default : Document R) : Except Fault (Document R) :=
  match d with
  | .table entries => .ok ((find? key entries).getD default)
  | _ => .error .notTable

def get (d : Document R) (key : String) : Except Fault (Document R) :=
  match d with
  | .table entries =>
    match find? key entries with
    | some v => .ok v
    | none => .error (.missingKey key)
  | _ => .error .wrongType

def texts (names : List String) : Document R := .list (names.map .text)

/-- The members of what can be listed: of a list its items, of a table its keys, of a text its characters. -/
def items : Document R → Except Fault (List (Document R))
  | .list items => .ok items
  | .table entries => .ok (entries.map fun e => .text e.1)
  | .text s => .ok (s.toList.map fun c => .text (String.singleton c))
  | _ => .error .wrongType

def asText : Document R → Except Fault String
  | .text s => .ok s
  | _ => .error .wrongType

def asTexts (d : Document R) : Except Fault (List String) := do (← d.items).mapM asText

def truth [Scalar R] : Document R → Bool
  | .null => false
  | .bool b => b
  | .int i => i ≠ 0
  | .number x => !Scalar.isZero x
  | .text s => !s.isEmpty
  | .moment _ => true
  | .list items => !items.isEmpty
  | .table entries => !entries.isEmpty

def asNumber [Scalar R] : Document R → Except Fault R
  | .bool b => .ok (Scalar.ofNat b.toNat)
  | .int i => .ok (Scalar.ofInt i)
  | .number x => .ok x
  | .text s =>
    match Decimal.readNumeral? s with
    | some n => .ok (Scalar.ofNumeral n)
    | none => .error (.badNumber s)
  | _ => .error .wrongType

def asInt [Scalar R] : Document R → Except Fault Int
  | .bool b => .ok b.toNat
  | .int i => .ok i
  | .number x => Scalar.truncate x
  | .text s =>
    match Decimal.readInt? s with
    | some i => .ok i
    | none => .error (.badInteger s)
  | _ => .error .wrongType

def number? [Scalar R] : Document R → Except Fault R
  | .bool b => .ok (Scalar.ofNat b.toNat)
  | .int i => .ok (Scalar.ofInt i)
  | .number x => .ok x
  | _ => .error .wrongType

mutual

def inner [Scalar R] : Document R → String
  | .null => "None"
  | .bool b => if b then "True" else "False"
  | .int i => toString i
  | .number x => Scalar.text x
  | .text s => quoted s
  | .moment m => m.inner
  | .list items => "[" ++ ", ".intercalate (inners items) ++ "]"
  | .table entries => "\x7b" ++ ", ".intercalate (innerEntries entries) ++ "\x7d"

def inners [Scalar R] : List (Document R) → List String
  | [] => []
  | d :: ds => inner d :: inners ds

def innerEntries [Scalar R] : List (String × Document R) → List String
  | [] => []
  | (k, d) :: es => (quoted k ++ ": " ++ inner d) :: innerEntries es

end

section Equality

variable [DecidableEq R]

mutual

def same : Document R → Document R → Bool
  | .null, .null => true
  | .bool a, .bool b => a = b
  | .int i, .int j => i = j
  | .number x, .number y => x = y
  | .text s, .text s' => s = s'
  | .moment m, .moment m' => m = m'
  | .list items, .list items' => sameItems items items'
  | .table entries, .table entries' => sameEntries entries entries'
  | _, _ => false

def sameItems : List (Document R) → List (Document R) → Bool
  | [], [] => true
  | d :: ds, d' :: ds' => same d d' && sameItems ds ds'
  | _, _ => false

def sameEntries : List (String × Document R) → List (String × Document R) → Bool
  | [], [] => true
  | (k, d) :: es, (k', d') :: es' => k = k' && same d d' && sameEntries es es'
  | _, _ => false

end

mutual

theorem same_iff (d d' : Document R) : same d d' = true ↔ d = d' := by
  cases d with
  | list items =>
    cases d' with
    | list items' => simp [same, sameItems_iff items items']
    | _ => simp [same]
  | table entries =>
    cases d' with
    | table entries' => simp [same, sameEntries_iff entries entries']
    | _ => simp [same]
  | _ => cases d' <;> simp [same]

theorem sameItems_iff (ds ds' : List (Document R)) : sameItems ds ds' = true ↔ ds = ds' := by
  cases ds with
  | nil => cases ds' <;> simp [sameItems]
  | cons d ds =>
    cases ds' with
    | nil => simp [sameItems]
    | cons d' ds' => simp [sameItems, same_iff d d', sameItems_iff ds ds']

theorem sameEntries_iff (es es' : List (String × Document R)) : sameEntries es es' = true ↔ es = es' := by
  cases es with
  | nil => cases es' <;> simp [sameEntries]
  | cons e es =>
    obtain ⟨k, d⟩ := e
    cases es' with
    | nil => simp [sameEntries]
    | cons e' es' =>
      obtain ⟨k', d'⟩ := e'
      simp [sameEntries, same_iff d d', sameEntries_iff es es', and_assoc]

end

instance : DecidableEq (Document R) := fun d d' => decidable_of_iff (same d d' = true) (same_iff d d')

end Equality

def shown [Scalar R] : Document R → String
  | .text s => s
  | .moment m => m.shown
  | d => inner d

end Document

end Demarcation
