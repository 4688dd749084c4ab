import Mathlib.Data.Finset.Card
import Demarcation.Dependency

/-!
Sizes of sets of names. A set that has more than half of all names in common with a group brings fewer names than the
group has, so what shared no name with the group before still overlaps it by less than half after
(`not_overlapsHalf_union`).
-/

namespace Demarcation.SortedSet

variable {α : Type} [LT α]

theorem union_comm [DecidableLT α] [Ordered α] (s t : SortedSet α) : s ∪ t = t ∪ s :=
  ext fun a => by rw [mem_union, mem_union, or_comm]

theorem size_pos_iff {s : SortedSet α} : 0 < s.size ↔ ∃ a, a ∈ s := List.length_pos_iff_exists_mem

theorem isEmpty_eq_false_iff {s : SortedSet α} : s.isEmpty = false ↔ ∃ a, a ∈ s :=
  List.isEmpty_eq_false_iff_exists_mem

variable [DecidableEq α]

def toFinset (s : SortedSet α) : Finset α := s.toList.toFinset

theorem mem_toFinset {s : SortedSet α} {a : α} : a ∈ s.toFinset ↔ a ∈ s := List.mem_toFinset

theorem toFinset_inter (s t : SortedSet α) : (s ∩ t).toFinset = s.toFinset ∩ t.toFinset := by
  ext a
  simp only [mem_toFinset, mem_inter, Finset.mem_inter]

variable [Ordered α]

theorem inter_comm (s t : SortedSet α) : s ∩ t = t ∩ s := ext fun a => by rw [mem_inter, mem_inter, and_comm]

theorem card_toFinset (s : SortedSet α) : s.toFinset.card = s.size :=
  List.toFinset_card_of_nodup s.nodup_toList

theorem size_le_size {s t : SortedSet α} (h : ∀ a ∈ s, a ∈ t) : s.size ≤ t.size := by
  rw [← card_toFinset, ← card_toFinset]
  apply Finset.card_le_card
  intro a ha
  exact mem_toFinset.2 (h a (mem_toFinset.1 ha))

theorem size_eq_zero {s : SortedSet α} (h : ∀ a, a ∉ s) : s.size = 0 := by
  rw [← card_toFinset, Finset.card_eq_zero]
  exact Finset.eq_empty_of_forall_notMem fun a ha => h a (mem_toFinset.1 ha)

variable [DecidableLT α]

theorem toFinset_union (s t : SortedSet α) : (s ∪ t).toFinset = s.toFinset ∪ t.toFinset := by
  ext a
  simp only [mem_toFinset, mem_union, Finset.mem_union]

theorem size_union_add_size_inter (s t : SortedSet α) : (s ∪ t).size + (s ∩ t).size = s.size + t.size := by
  simp only [← card_toFinset, toFinset_union, toFinset_inter]
  exact Finset.card_union_add_card_inter _ _

theorem overlapsHalf_iff {s t : SortedSet α} : s.overlapsHalf t = true ↔ (s ∪ t).size < 2 * (s ∩ t).size :=
  decide_eq_true_iff

theorem size_inter_le_size_union (s t : SortedSet α) : (s ∩ t).size ≤ (s ∪ t).size :=
  size_le_size fun _ ha => mem_union.2 (Or.inl (mem_inter.1 ha).1)

theorem overlapsHalf_comm (s t : SortedSet α) : s.overlapsHalf t = t.overlapsHalf s := by
  rw [overlapsHalf, overlapsHalf, union_comm, inter_comm]

theorem not_overlapsHalf_of_disjoint {s t : SortedSet α} (h : ∀ a ∈ s, a ∉ t) : s.overlapsHalf t = false := by
  rw [Bool.eq_false_iff, Ne, overlapsHalf_iff]
  have hi : (s ∩ t).size = 0 := size_eq_zero fun a ha => h a (mem_inter.1 ha).1 (mem_inter.1 ha).2
  omega

theorem not_overlapsHalf_union {group other late : SortedSet α} (ho : group.overlapsHalf other = true)
    (hl : ∀ a ∈ group, a ∉ late) : (group ∪ other).overlapsHalf late = false := by
  rw [Bool.eq_false_iff, Ne, overlapsHalf_iff]
  rw [overlapsHalf_iff] at ho
  -- what the group has in common with `late` is new in it, and the new members are fewer than the old ones
  have hsum : ((group ∪ other) ∩ late).size + group.size ≤ (group ∪ other).size := by
    have hdisj : (((group ∪ other) ∩ late) ∩ group).size = 0 :=
      size_eq_zero fun a ha => hl a (mem_inter.1 ha).2 (mem_inter.1 (mem_inter.1 ha).1).2
    have hcount := size_union_add_size_inter ((group ∪ other) ∩ late) group
    have hsub : (((group ∪ other) ∩ late) ∪ group).size ≤ (group ∪ other).size := by
      apply size_le_size
      intro a ha
      rcases mem_union.1 ha with h | h
      · exact (mem_inter.1 h).1
      · exact mem_union.2 (Or.inl h)
    omega
  have hhalf : (group ∩ other).size ≤ group.size := size_le_size fun a ha => (mem_inter.1 ha).1
  have hgrown : (group ∪ other).size ≤ ((group ∪ other) ∪ late).size :=
    size_le_size fun a ha => mem_union.2 (Or.inl ha)
  omega

end Demarcation.SortedSet
