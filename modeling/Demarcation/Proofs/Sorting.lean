import Mathlib.Data.List.Perm.Basic
import Mathlib.Order.Lattice

namespace Demarcation

variable {α β : Type}

theorem mergeSort_congr {r s : α → α → Bool} {l : List α} (h : ∀ a ∈ l, ∀ b ∈ l, r a b = s a b) :
    l.mergeSort r = l.mergeSort s := by
  rw [← List.map_id (l.mergeSort r), List.map_mergeSort, List.map_id]
  exact h

variable [LinearOrder β] {key : α → β} {l l' : List α}

theorem pairwise_mergeSort_of_key (key : α → β) (l : List α) :
    (l.mergeSort fun a b => key a ≤ key b).Pairwise fun a b => key a ≤ key b := by
  refine (List.pairwise_mergeSort ?_ ?_ l).imp of_decide_eq_true
  · intro a b c hab hbc
    exact decide_eq_true (le_trans (of_decide_eq_true hab) (of_decide_eq_true hbc))
  · intro a b
    simpa only [Bool.or_eq_true, decide_eq_true_eq] using le_total (key a) (key b)

theorem mergeSort_eq_of_perm (h : l.Perm l') (hkey : ∀ a ∈ l, ∀ b ∈ l, key a = key b → a = b) :
    (l.mergeSort fun a b => key a ≤ key b) = l'.mergeSort fun a b => key a ≤ key b := by
  refine List.Perm.eq_of_pairwise ?_ (pairwise_mergeSort_of_key key l) (pairwise_mergeSort_of_key key l') ?_
  · intro a b ha hb hab hba
    exact hkey a (List.mem_mergeSort.1 ha) b (h.mem_iff.2 (List.mem_mergeSort.1 hb)) (le_antisymm hab hba)
  · exact (List.mergeSort_perm _ _).trans (h.trans (List.mergeSort_perm _ _).symm)

theorem pairwise_lt_mergeSort (hkey : (l.map key).Nodup) :
    (l.mergeSort fun a b => key a ≤ key b).Pairwise fun a b => key a < key b := by
  have hdistinct : (l.mergeSort fun a b => key a ≤ key b).Pairwise fun a b => key a ≠ key b :=
    List.pairwise_map.1 (((List.mergeSort_perm l _).map key).nodup_iff.2 hkey)
  refine ((pairwise_mergeSort_of_key key l).and hdistinct).imp ?_
  rintro a b ⟨hle, hne⟩
  exact lt_of_le_of_ne hle hne

theorem key_lt_of_mem_take (hkey : (l.map key).Nodup) {n : Nat} {a b : α}
    (ha : a ∈ (l.mergeSort fun a b => key a ≤ key b).take n) (hb : b ∈ l)
    (hcut : b ∉ (l.mergeSort fun a b => key a ≤ key b).take n) : key a < key b := by
  have hsorted := pairwise_lt_mergeSort hkey
  have hb : b ∈ l.mergeSort fun a b => key a ≤ key b := List.mem_mergeSort.2 hb
  rw [← List.take_append_drop n (l.mergeSort _)] at hsorted hb
  have hrest := (List.mem_append.1 hb).resolve_left hcut
  exact (List.pairwise_append.1 hsorted).2.2 a ha b hrest

end Demarcation
