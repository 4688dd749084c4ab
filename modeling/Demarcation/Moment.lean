namespace Demarcation

structure Date where
  year : Nat
  month : Nat
  day : Nat
deriving DecidableEq, Repr, Inhabited

structure TimeOfDay where
  hour : Nat
  minute : Nat
  second : Nat
  microsecond : Nat := 0
deriving DecidableEq, Repr, Inhabited

inductive Moment where
  | date (d : Date)
  | time (t : TimeOfDay)
  | dateTime (d : Date) (t : TimeOfDay) (offset : Option Int)
deriving DecidableEq, Repr, Inhabited

def padded (width n : Nat) : String :=
  let digits := (toString n).toList
  String.ofList (List.replicate (width - digits.length) '0' ++ digits)

def Date.text (d : Date) : String := padded 4 d.year ++ "-" ++ padded 2 d.month ++ "-" ++ padded 2 d.day

def TimeOfDay.text (t : TimeOfDay) : String :=
  padded 2 t.hour ++ ":" ++ padded 2 t.minute ++ ":" ++ padded 2 t.second ++
    if t.microsecond = 0 then "" else "." ++ padded 6 t.microsecond

namespace Moment

def offsetText (minutes : Int) : String :=
  let n := minutes.natAbs
  (if minutes < 0 then "-" else "+") ++ padded 2 (n / 60) ++ ":" ++ padded 2 (n % 60)

def shown : Moment → String
  | .date d => d.text
  | .time t => t.text
  | .dateTime d t offset => d.text ++ " " ++ t.text ++ (offset.map offsetText).getD ""

def written : Moment → String
  | .date d => d.text
  | .time t => t.text
  | .dateTime d t offset =>
    d.text ++ "T" ++ t.text ++ (offset.map fun m => if m = 0 then "Z" else offsetText m).getD ""

def inner : Moment → String
  | .date d => "datetime.date(" ++ numbers (dateParts d) ++ ")"
  | .time t => "datetime.time(" ++ numbers (timeParts t) ++ ")"
  | .dateTime d t offset =>
    "datetime.datetime(" ++ numbers (dateParts d ++ timeParts t) ++
      (if offset.isSome then ", tzinfo=<toml.tz.TomlTz object>)" else ")")
where
  numbers (ns : List Nat) : String := ", ".intercalate (ns.map toString)
  dateParts (d : Date) : List Nat := [d.year, d.month, d.day]
  timeParts (t : TimeOfDay) : List Nat :=
    [t.hour, t.minute] ++
      if t.microsecond ≠ 0 then [t.second, t.microsecond] else if t.second ≠ 0 then [t.second] else []

end Moment

end Demarcation
