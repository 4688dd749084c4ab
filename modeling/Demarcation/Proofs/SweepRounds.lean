import Demarcation.Proofs.Sweep

namespace Demarcation.Feature

variable {α β : Type} {join : α → List α → α} {features : List (α → Feature)}

def sweepRound (join : α → List α → α) : List (α → Feature) → List α → List α × Bool
  | [], l => (l, false)
  | feature :: features, l =>
    let swept := sweepWith feature join l
    let rest := sweepRound join features swept.1
    (rest.1, swept.2 || rest.2)

def sweepRounds (join : α → List α → α) (features : List (α → Feature)) : Nat → List α → List α
  | 0, l => l
  | fuel + 1, l =>
    let swept := sweepRound join features l
    if swept.2 then sweepRounds join features fuel swept.1 else swept.1

theorem sweepRound_nil (l : List α) : sweepRound join [] l = (l, false) := rfl

theorem sweepRound_cons (feature : α → Feature) (l : List α) :
    sweepRound join (feature :: features) l =
      ((sweepRound join features (sweepWith feature join l).1).1,
        (sweepWith feature join l).2 || (sweepRound join features (sweepWith feature join l).1).2) := rfl

theorem sweepRounds_succ (fuel : Nat) (l : List α) :
    sweepRounds join features (fuel + 1) l =
      if (sweepRound join features l).2 then sweepRounds join features fuel (sweepRound join features l).1
      else (sweepRound join features l).1 := rfl

section Preserved

variable {p : List α → Prop}

theorem sweepRound_induction (hp : ∀ feature ∈ features, ∀ l, p l → p (sweepWith feature join l).1) {l : List α}
    (h : p l) : p (sweepRound join features l).1 := by
  induction features generalizing l with
  | nil => exact h
  | cons feature features ih =>
    rw [sweepRound_cons]
    apply ih
    · exact fun feature' hf => hp feature' (List.mem_cons_of_mem feature hf)
    · exact hp feature List.mem_cons_self l h

theorem sweepRounds_induction (hp : ∀ feature ∈ features, ∀ l, p l → p (sweepWith feature join l).1) (fuel : Nat)
    {l : List α} (h : p l) : p (sweepRounds join features fuel l) := by
  induction fuel generalizing l with
  | zero => exact h
  | succ fuel ih =>
    have hround := sweepRound_induction hp h
    rw [sweepRounds_succ]
    split
    · exact ih hround
    · exact hround

theorem sweepRound_filter {q : α → Bool}
    (hp : ∀ feature ∈ features, ∀ l, p l →
      p (sweepWith feature join l).1 ∧
        (sweepWith feature join (l.filter q)).1 = (sweepWith feature join l).1.filter q)
    {l : List α} (h : p l) :
    (sweepRound join features (l.filter q)).1 = (sweepRound join features l).1.filter q := by
  induction features generalizing l with
  | nil => rfl
  | cons feature features ih =>
    obtain ⟨hkept, hfilter⟩ := hp feature List.mem_cons_self l h
    rw [sweepRound_cons, sweepRound_cons, hfilter]
    exact ih (fun feature' hf => hp feature' (List.mem_cons_of_mem feature hf)) hkept

end Preserved

section Lengths

variable (join features) in
theorem length_sweepRound_le (l : List α) : (sweepRound join features l).1.length ≤ l.length := by
  induction features generalizing l with
  | nil => exact Nat.le_refl _
  | cons feature features ih => exact (ih _).trans (length_sweepWith_le feature join l)

theorem length_sweepRound_lt {l : List α} (h : (sweepRound join features l).2 = true) :
    (sweepRound join features l).1.length < l.length := by
  induction features generalizing l with
  | nil => exact absurd h Bool.false_ne_true
  | cons feature features ih =>
    rw [sweepRound_cons] at h ⊢
    rcases Bool.or_eq_true_iff.1 h with h | h
    · exact (length_sweepRound_le join features _).trans_lt (length_sweepWith_lt h)
    · exact (ih h).trans_le (length_sweepWith_le feature join l)

variable (join features) in
theorem sweepRound_ne_nil {l : List α} (h : l ≠ []) : (sweepRound join features l).1 ≠ [] := by
  induction features generalizing l with
  | nil => exact h
  | cons feature features ih => exact ih (sweepWith_ne_nil feature h)

theorem sweepRounds_eq {fuel fuel' : Nat} {l : List α} (hfuel : l.length < fuel) (hfuel' : l.length < fuel') :
    sweepRounds join features fuel l = sweepRounds join features fuel' l := by
  induction fuel generalizing fuel' l with
  | zero => exact absurd hfuel (Nat.not_lt_zero _)
  | succ fuel ih =>
    obtain ⟨fuel', rfl⟩ : ∃ n, fuel' = n + 1 := ⟨fuel' - 1, by omega⟩
    rw [sweepRounds_succ, sweepRounds_succ]
    cases h : (sweepRound join features l).2 with
    | true =>
      have hlt := length_sweepRound_lt h
      rw [if_pos rfl, if_pos rfl]
      apply ih
      · omega
      · omega
    | false => rfl

end Lengths

section Stable

variable (hjoin : ∀ a, join a [] = a)
include hjoin

theorem sweepRound_unchanged_iff {l : List α} :
    (sweepRound join features l).2 = false ↔ ∀ feature ∈ features, (sweepWith feature join l).2 = false := by
  induction features with
  | nil => simp only [sweepRound_nil, List.not_mem_nil, false_implies, implies_true]
  | cons feature features ih =>
    rw [sweepRound_cons, Bool.or_eq_false_iff, List.forall_mem_cons]
    apply and_congr_right
    intro h
    rw [sweepWith_of_unchanged hjoin h]
    exact ih

theorem sweepRound_of_unchanged {l : List α} (h : (sweepRound join features l).2 = false) :
    sweepRound join features l = (l, false) := by
  induction features with
  | nil => rfl
  | cons feature features ih =>
    obtain ⟨hfeature, hfeatures⟩ := List.forall_mem_cons.1 ((sweepRound_unchanged_iff hjoin).1 h)
    rw [sweepRound_cons, sweepWith_of_unchanged hjoin hfeature, Bool.false_or]
    exact ih ((sweepRound_unchanged_iff hjoin).2 hfeatures)

theorem sweepRounds_of_unchanged {l : List α} (h : (sweepRound join features l).2 = false) (fuel : Nat) :
    sweepRounds join features fuel l = l := by
  cases fuel with
  | zero => rfl
  | succ fuel => rw [sweepRounds_succ, sweepRound_of_unchanged hjoin h, if_neg Bool.false_ne_true]

theorem sweepRound_sweepRounds {fuel : Nat} {l : List α} (hfuel : l.length < fuel) :
    sweepRound join features (sweepRounds join features fuel l) = (sweepRounds join features fuel l, false) := by
  induction fuel generalizing l with
  | zero => exact absurd hfuel (Nat.not_lt_zero _)
  | succ fuel ih =>
    rw [sweepRounds_succ]
    cases h : (sweepRound join features l).2 with
    | true =>
      rw [if_pos rfl]
      exact ih ((length_sweepRound_lt h).trans_le (Nat.le_of_lt_succ hfuel))
    | false =>
      rw [if_neg Bool.false_ne_true, sweepRound_of_unchanged hjoin h]
      exact sweepRound_of_unchanged hjoin h

variable {p : List α → Prop} {q : α → Bool}

theorem sweepRound_filter_unchanged {l : List α} (h : (sweepRound join features l).2 = false) :
    (sweepRound join features (l.filter q)).2 = false := by
  rw [sweepRound_unchanged_iff hjoin] at h ⊢
  intro feature hf
  have hunchanged := h feature hf
  rw [sweepWith_unchanged_iff] at hunchanged ⊢
  exact hunchanged.filter q

/-- If each sweep of a part of the list does what the sweep of the whole list does to this part, so do all rounds. -/
theorem sweepRounds_filter
    (hp : ∀ feature ∈ features, ∀ l, p l →
      p (sweepWith feature join l).1 ∧
        (sweepWith feature join (l.filter q)).1 = (sweepWith feature join l).1.filter q)
    (fuel : Nat) {l : List α} (h : p l) :
    sweepRounds join features fuel (l.filter q) = (sweepRounds join features fuel l).filter q := by
  induction fuel generalizing l with
  | zero => rfl
  | succ fuel ih =>
    have hround := sweepRound_filter hp h
    rw [sweepRounds_succ fuel l]
    split
    · rw [← ih (sweepRound_induction (fun feature hf l hl => (hp feature hf l hl).1) h), ← hround, sweepRounds_succ]
      split
      · rfl
      · -- The part was stable already, so the further rounds of the whole list leave it as it is.
        rename_i hstable
        rw [sweepRound_of_unchanged hjoin (Bool.eq_false_iff.2 hstable)]
        exact (sweepRounds_of_unchanged hjoin (Bool.eq_false_iff.2 hstable) fuel).symm
    · rename_i hunchanged
      rw [sweepRounds_succ, sweepRound_filter_unchanged hjoin (Bool.eq_false_iff.2 hunchanged),
        if_neg Bool.false_ne_true]
      exact hround

end Stable

section Mapped

variable {join' : β → List β → β}

theorem sweepRound_map (f : β → α) (hjoin : ∀ b bs, f (join' b bs) = join (f b) (bs.map f)) (l : List β) :
    sweepRound join features (l.map f) =
      ((sweepRound join' (features.map (· ∘ f)) l).1.map f, (sweepRound join' (features.map (· ∘ f)) l).2) := by
  induction features generalizing l with
  | nil => rfl
  | cons feature features ih => rw [List.map_cons, sweepRound_cons, sweepRound_cons, sweepWith_map f hjoin, ih]

theorem sweepRounds_map (f : β → α) (hjoin : ∀ b bs, f (join' b bs) = join (f b) (bs.map f)) (fuel : Nat)
    (l : List β) :
    sweepRounds join features fuel (l.map f) = (sweepRounds join' (features.map (· ∘ f)) fuel l).map f := by
  induction fuel generalizing l with
  | zero => rfl
  | succ fuel ih =>
    rw [sweepRounds_succ, sweepRounds_succ, sweepRound_map f hjoin, ih]
    split
    · rfl
    · rfl

end Mapped

end Demarcation.Feature
