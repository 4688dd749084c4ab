import Mathlib.Data.List.Basic
import Demarcation.Stride

namespace Demarcation

variable {α : Type} {step count limit : Nat}

theorem getElem?_everyNth (hstep : 0 < step) (items : List α) (wait i : Nat) :
    (everyNth step wait items)[i]? = items[wait + i * step]? := by
  induction items generalizing wait i with
  | nil => simp [everyNth]
  | cons a as ih =>
    cases wait with
    | zero =>
      cases i with
      | zero => simp [everyNth]
      | succ i =>
        have hnext : 0 + (i + 1) * step = step - 1 + i * step + 1 := by
          rw [Nat.add_mul]
          omega
        rw [everyNth, List.getElem?_cons_succ, ih, hnext, List.getElem?_cons_succ]
    | succ wait => rw [everyNth, ih, Nat.add_right_comm, List.getElem?_cons_succ]

theorem strideSample_eq {items : List α} (hpos : 0 < limit) (hmany : limit < items.length) :
    strideSample items limit = .ok ((everyNth (items.length / limit) 0 items).take limit) := by
  rw [strideSample, if_neg (by omega), if_neg (by omega), if_neg (by omega)]
  rfl

def multiples (step count : Nat) : List Nat := (List.range count).map (· * step)

def keptPositions (n limit : Nat) : List Nat := multiples (n / limit) limit

theorem mem_multiples_iff {k : Nat} : k ∈ multiples step count ↔ ∃ i < count, i * step = k := by
  simp [multiples]

theorem map_take_everyNth {items : List α} (hpos : 0 < limit) (hmany : limit < items.length) :
    ((everyNth (items.length / limit) 0 items).take limit).map some =
      (keptPositions items.length limit).map (items[·]?) := by
  have hstep : 0 < items.length / limit := Nat.div_pos (Nat.le_of_lt hmany) hpos
  apply List.ext_getElem?
  intro i
  rw [keptPositions, multiples, List.map_map, List.getElem?_map, List.getElem?_map, List.getElem?_take]
  by_cases hi : i < limit
  · have hinside : i * (items.length / limit) < items.length := by
      calc i * (items.length / limit) < limit * (items.length / limit) := Nat.mul_lt_mul_of_pos_right hi hstep
        _ ≤ items.length := Nat.mul_div_le _ _
    rw [if_pos hi, List.getElem?_range hi, getElem?_everyNth hstep, Nat.zero_add]
    simp [hinside]
  · rw [if_neg hi, List.getElem?_eq_none (by simpa using hi)]
    rfl

def FollowsWithin (gap : Nat) (kept : List Nat) (p : Nat) : Prop := ∃ k ∈ kept, k ≤ p ∧ p < k + gap

instance (gap : Nat) (kept : List Nat) (p : Nat) : Decidable (FollowsWithin gap kept p) :=
  inferInstanceAs (Decidable (∃ k ∈ kept, k ≤ p ∧ p < k + gap))

theorem followsWithin_multiples (hstep : 0 < step) {p : Nat} (hp : p < count * step) :
    FollowsWithin step (multiples step count) p := by
  have hbelow : p / step < count := (Nat.div_lt_iff_lt_mul hstep).2 hp
  refine ⟨p / step * step, mem_multiples_iff.2 ⟨_, hbelow, rfl⟩, Nat.div_mul_le_self p step, ?_⟩
  exact Nat.lt_div_mul_add hstep

theorem forall_followsWithin_iff (hstep : 0 < step) (hcount : 0 < count) (rest gap : Nat) :
    (∀ p < count * step + rest, FollowsWithin gap (multiples step count) p) ↔ step + rest ≤ gap := by
  have hlast : (count - 1) * step + step = count * step := by
    rw [← Nat.succ_mul, Nat.succ_eq_add_one, Nat.sub_add_cancel hcount]
  constructor
  · intro h
    obtain ⟨k, hk, -, hgap⟩ := h (count * step + rest - 1) (by omega)
    obtain ⟨i, hi, rfl⟩ := mem_multiples_iff.1 hk
    have hle : i * step ≤ (count - 1) * step := Nat.mul_le_mul_right step (by omega)
    omega
  · intro h p hp
    by_cases hbefore : p < count * step
    · obtain ⟨k, hk, hkp, hgap⟩ := followsWithin_multiples hstep hbefore
      exact ⟨k, hk, hkp, by omega⟩
    · exact ⟨(count - 1) * step, mem_multiples_iff.2 ⟨_, by omega, rfl⟩, by omega, by omega⟩

theorem div_add_mod_le_ceil_iff (hpos : 0 < limit) (n : Nat) :
    n / limit + n % limit ≤ (n + limit - 1) / limit ↔ n % limit ≤ 1 := by
  have hmod : n % limit < limit := Nat.mod_lt n hpos
  have hn : n + limit - 1 = n % limit + (limit - 1) + limit * (n / limit) := by
    have := Nat.mod_add_div n limit
    omega
  rw [hn, Nat.add_mul_div_left _ _ hpos]
  rcases Nat.eq_zero_or_pos (n % limit) with hzero | hrest
  · have hceil : (n % limit + (limit - 1)) / limit = 0 := Nat.div_eq_of_lt (by omega)
    rw [hceil]
    omega
  · have hceil : (n % limit + (limit - 1)) / limit = 1 := by
      rw [Nat.div_eq_iff hpos]
      omega
    rw [hceil]
    omega

/-- A sample keeps the members at equal distances from the first on. Up to the end of the last full stride no position is
a stride away from the kept one before it. The way from a kept position to the end of the list is longer by the remainder,
so the whole list is evenly covered exactly if the remainder is at most one. -/
theorem strideSample_spread {items : List α} (hpos : 0 < limit) (hmany : limit < items.length) :
    (∃ sample, strideSample items limit = .ok sample ∧
        sample.map some = (keptPositions items.length limit).map (items[·]?)) ∧
      (∀ p < limit * (items.length / limit),
        FollowsWithin (items.length / limit) (keptPositions items.length limit) p) ∧
        (∀ gap, (∀ p < items.length, FollowsWithin gap (keptPositions items.length limit) p) ↔
          items.length / limit + items.length % limit ≤ gap) ∧
          ((∀ p < items.length,
              FollowsWithin ((items.length + limit - 1) / limit) (keptPositions items.length limit) p) ↔
            items.length % limit ≤ 1) := by
  have hstep : 0 < items.length / limit := Nat.div_pos (Nat.le_of_lt hmany) hpos
  have hgap : ∀ gap, (∀ p < items.length, FollowsWithin gap (keptPositions items.length limit) p) ↔
      items.length / limit + items.length % limit ≤ gap := by
    intro gap
    have hlength : items.length = limit * (items.length / limit) + items.length % limit := (Nat.div_add_mod _ _).symm
    rw [← forall_followsWithin_iff hstep hpos, ← hlength]
    rfl
  refine ⟨⟨_, strideSample_eq hpos hmany, map_take_everyNth hpos hmany⟩, ?_, hgap, ?_⟩
  · intro p hp
    exact followsWithin_multiples hstep hp
  · rw [hgap, div_add_mod_le_ceil_iff hpos]

theorem strideSample_spread_eleven :
    0 < 4 ∧ 4 < (List.range 11).length ∧
      ((∀ p < (List.range 11).length, FollowsWithin 5 (keptPositions (List.range 11).length 4) p) ∧
        ¬ ∀ p < (List.range 11).length, FollowsWithin 4 (keptPositions (List.range 11).length 4) p) := by
  obtain ⟨-, -, hgap, -⟩ := @strideSample_spread Nat 4 (List.range 11) (by decide) (by decide)
  refine ⟨by decide, by decide, (hgap 5).2 (by decide), ?_⟩
  rw [hgap 4]
  decide

theorem strideSample_misses_tail :
    ∃ sample, strideSample (List.range 250) 100 = .ok sample ∧ ¬ FollowsWithin ((250 + 100 - 1) / 100) sample 249 := by
  refine ⟨_, strideSample_eq (by decide) (by simp), ?_⟩
  decide +kernel

end Demarcation
