import Mathlib.Data.List.Induction
import Mathlib.Data.List.Nodup
import Mathlib.Data.List.Range

namespace Demarcation

variable {α : Type} {L : List (Nat × α)} {n : Nat}

def byLevel (n : Nat) (L : List (Nat × α)) : List (Nat × α) :=
  (List.range n).flatMap fun level => L.filter (·.1 == level)

theorem filter_lt_append_filter_eq (hlevels : ∀ p ∈ L, p.1 < n + 1) (hsorted : L.Pairwise fun p q => p.1 ≤ q.1) :
    L.filter (decide <| ·.1 < n) ++ L.filter (·.1 == n) = L := by
  induction L with
  | nil => rfl
  | cons p L ih =>
    obtain ⟨hp, hsorted⟩ := List.pairwise_cons.1 hsorted
    obtain ⟨hlevel, hlevels⟩ := List.forall_mem_cons.1 hlevels
    by_cases hlt : p.1 < n
    · rw [List.filter_cons_of_pos (by simpa using hlt), List.filter_cons_of_neg (by simpa using Nat.ne_of_lt hlt),
        List.cons_append, ih hlevels hsorted]
    · have hlast : p.1 = n := by omega
      have hnone : (p :: L).filter (decide <| ·.1 < n) = [] := by
        rw [List.filter_eq_nil_iff, List.forall_mem_cons]
        refine ⟨by simpa using hlt, fun q hq => ?_⟩
        have := hp q hq
        simp only [decide_eq_true_eq]
        omega
      have hall : (p :: L).filter (·.1 == n) = p :: L := by
        rw [List.filter_eq_self, List.forall_mem_cons]
        refine ⟨by simpa using hlast, fun q hq => ?_⟩
        have := hp q hq
        have := hlevels q hq
        simp only [beq_iff_eq]
        omega
      rw [hnone, hall, List.nil_append]

theorem byLevel_succ (n : Nat) (L : List (Nat × α)) :
    byLevel (n + 1) L = byLevel n (L.filter (decide <| ·.1 < n)) ++ L.filter (·.1 == n) := by
  rw [byLevel, List.range_succ, List.flatMap_append, List.flatMap_singleton, byLevel]
  congr 1
  refine List.flatMap_congr fun level hlevel => ?_
  rw [List.filter_filter]
  refine List.filter_congr fun p _ => ?_
  rw [List.mem_range] at hlevel
  by_cases h : p.1 = level
  · simp [h, hlevel]
  · simp [h]

theorem byLevel_zero (hlevels : ∀ p ∈ L, p.1 < 0) : byLevel 0 L = L :=
  (List.eq_nil_iff_forall_not_mem.2 fun p hp => Nat.not_lt_zero _ (hlevels p hp)).symm

theorem lt_of_mem_filter_lt {p : Nat × α} (hp : p ∈ L.filter (decide <| ·.1 < n)) : p.1 < n := by
  simpa using (List.mem_filter.1 hp).2

theorem byLevel_eq_self (hlevels : ∀ p ∈ L, p.1 < n) (hsorted : L.Pairwise fun p q => p.1 ≤ q.1) : byLevel n L = L := by
  induction n generalizing L with
  | zero => exact byLevel_zero hlevels
  | succ n ih =>
    rw [byLevel_succ, ih (fun _ => lt_of_mem_filter_lt) (hsorted.filter _), filter_lt_append_filter_eq hlevels hsorted]

theorem pairwise_byLevel (n : Nat) (L : List (Nat × α)) : (byLevel n L).Pairwise fun p q => p.1 ≤ q.1 := by
  rw [byLevel, List.pairwise_flatMap]
  constructor
  · intro level _
    refine List.Pairwise.imp_of_mem (R := fun _ _ => True) (fun {p q} hp hq _ => ?_) (List.pairwise_of_forall fun _ _ => trivial)
    have hp := (List.mem_filter.1 hp).2
    have hq := (List.mem_filter.1 hq).2
    simp only [beq_iff_eq] at hp hq
    omega
  · refine List.pairwise_lt_range.imp fun {i j} hij p hp q hq => ?_
    have hp := (List.mem_filter.1 hp).2
    have hq := (List.mem_filter.1 hq).2
    simp only [beq_iff_eq] at hp hq
    omega

theorem byLevel_perm (hlevels : ∀ p ∈ L, p.1 < n) : (byLevel n L).Perm L := by
  induction n generalizing L with
  | zero => exact .of_eq (byLevel_zero hlevels)
  | succ n ih =>
    have hlast : L.filter (·.1 == n) = L.filter (fun p => !decide (p.1 < n)) := by
      refine List.filter_congr fun p hp => ?_
      have := hlevels p hp
      rw [Bool.eq_iff_iff]
      simp only [beq_iff_eq, Bool.not_eq_true', decide_eq_false_iff_not]
      omega
    rw [byLevel_succ, hlast]
    exact ((ih fun _ => lt_of_mem_filter_lt).append_right _).trans (List.filter_append_perm _ L)

theorem eq_of_map_snd_eq {L' : List (Nat × α)} (hperm : L'.Perm L) (hmap : L'.map (·.2) = L.map (·.2))
    (hnodup : (L.map (·.2)).Nodup) : L' = L := by
  -- a value stands with one level only, so the value at a place decides what is there
  refine List.ext_getElem hperm.length_eq fun i h h' => ?_
  have hsame : L'[i].2 = L[i].2 := by
    have := List.getElem_of_eq hmap (i := i) (by simpa using h)
    simpa using this
  exact List.inj_on_of_nodup_map hnodup (hperm.subset (List.getElem_mem h)) (List.getElem_mem h') hsame

theorem byLevel_eq_self_iff (hlevels : ∀ p ∈ L, p.1 < n) (hnodup : (L.map (·.2)).Nodup) :
    (byLevel n L).map (·.2) = L.map (·.2) ↔ L.Pairwise fun p q => p.1 ≤ q.1 := by
  constructor
  · intro hmap
    rw [← eq_of_map_snd_eq (byLevel_perm hlevels) hmap hnodup]
    exact pairwise_byLevel n L
  · intro hsorted
    rw [byLevel_eq_self hlevels hsorted]

end Demarcation
