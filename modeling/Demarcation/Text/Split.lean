namespace Demarcation.Text

def splitAll (c : Char) : List Char → List (List Char)
  | [] => [[]]
  | x :: xs =>
    if x = c then [] :: splitAll c xs
    else
      match splitAll c xs with
      | [] => [[x]]
      | piece :: pieces => (x :: piece) :: pieces

def splitFirst (c : Char) : Nat → List Char → List (List Char)
  | 0, xs => [xs]
  | _, [] => [[]]
  | n + 1, x :: xs =>
    if x = c then [] :: splitFirst c n xs
    else
      match splitFirst c (n + 1) xs with
      | [] => [[x]]
      | piece :: pieces => (x :: piece) :: pieces

def join (c : Char) (pieces : List (List Char)) : List Char := [c].intercalate pieces

theorem splitAll_ne_nil (c : Char) (xs : List Char) : splitAll c xs ≠ [] := by
  cases xs with
  | nil => simp [splitAll]
  | cons x xs =>
    simp only [splitAll]
    split
    · simp
    · split <;> simp

theorem join_splitAll (c : Char) (xs : List Char) : join c (splitAll c xs) = xs := by
  induction xs with
  | nil => rfl
  | cons x xs ih =>
    have hne := splitAll_ne_nil c xs
    by_cases h : x = c
    · simp only [splitAll, if_pos h]
      cases hs : splitAll c xs with
      | nil => exact absurd hs hne
      | cons piece pieces =>
        rw [hs] at ih
        simp only [join, List.intercalate, List.intersperse_cons_cons, List.flatten_cons, List.nil_append,
          List.singleton_append, h] at ih ⊢
        rw [ih]
    · simp only [splitAll, if_neg h]
      cases hs : splitAll c xs with
      | nil => exact absurd hs hne
      | cons piece pieces =>
        rw [hs] at ih
        cases pieces with
        | nil => simpa [join, List.intercalate] using ih
        | cons p ps => simpa [join, List.intercalate, List.intersperse_cons_cons] using ih

def inside (cs : List Char) : List Char := (cs.drop 1).dropLast

def endsEscaped (cs : List Char) : Bool := (cs.reverse.takeWhile (· = '\\')).length % 2 = 1

end Demarcation.Text
