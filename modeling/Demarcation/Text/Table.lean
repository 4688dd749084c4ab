namespace Demarcation.Text

def between (marks : List Nat) (n : Nat) : Bool := go false marks
where
  go (inside : Bool) : List Nat → Bool
    | [] => inside
    | m :: ms => if n < m then inside else go (!inside) ms

end Demarcation.Text
