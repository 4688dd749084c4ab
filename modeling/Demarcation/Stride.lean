import Demarcation.Fault

namespace Demarcation

/-- Every `step`-th member of a list, beginning with the first; `wait` members are passed over before the next one. -/
def everyNth {α : Type} (step : Nat) (wait : Nat) : List α → List α
  | [] => []
  | a :: as =>
    match wait with
    | 0 => a :: everyNth step (step - 1) as
    | wait + 1 => everyNth step wait as

/-- At most `limit` evenly spaced members. A negative limit drops that many members from the end instead. -/
def strideSample {α : Type} (items : List α) (limit : Int) : Except Fault (List α) :=
  if (items.length : Int) ≤ limit then .ok items
  else if limit = 0 then .error .divisionByZero
  else if limit < 0 then .ok (items.take (items.length - limit.natAbs))
  else .ok ((everyNth (items.length / limit.toNat) 0 items).take limit.toNat)

theorem everyNth_sublist {α : Type} (step wait : Nat) (items : List α) : (everyNth step wait items).Sublist items := by
  induction items generalizing wait with
  | nil => exact .slnil
  | cons a as ih =>
    cases wait with
    | zero => exact (ih (step - 1)).cons_cons a
    | succ wait => exact (ih wait).cons a

theorem strideSample_sublist {α : Type} {items sample : List α} {limit : Int}
    (h : strideSample items limit = .ok sample) : sample.Sublist items := by
  unfold strideSample at h
  split at h
  · obtain rfl := Except.ok.inj h
    exact List.Sublist.refl items
  · split at h
    · cases h
    · split at h
      · obtain rfl := Except.ok.inj h
        exact List.take_sublist _ items
      · obtain rfl := Except.ok.inj h
        exact (List.take_sublist _ _).trans (everyNth_sublist _ 0 items)

theorem exists_strideSample {α : Type} (items : List α) {limit : Int} (h : limit ≠ 0) :
    ∃ sample, strideSample items limit = .ok sample := by
  by_cases hall : (items.length : Int) ≤ limit
  · exact ⟨items, if_pos hall⟩
  · rw [strideSample, if_neg hall, if_neg h]
    split
    · exact ⟨_, rfl⟩
    · exact ⟨_, rfl⟩

def spread {α : Type} (limit : Nat) (items : List α) : List α :=
  if items.length ≤ limit then items else (everyNth (items.length / limit) 0 items).take limit

end Demarcation
