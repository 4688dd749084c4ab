import Mathlib.Data.List.FinRange
import Demarcation.Dependency

namespace Demarcation

variable {α β : Type} {l : List α}

theorem orderedPairs_map (f : α → β) (l : List α) :
    orderedPairs (l.map f) = (orderedPairs l).map fun p => (f p.1, f p.2) := by
  induction l with
  | nil => rfl
  | cons a l ih =>
    rw [List.map_cons, orderedPairs, orderedPairs, List.map_append, ih, List.map_map, List.map_map]
    rfl

theorem orderedPairs_eq_map_get (l : List α) :
    orderedPairs l = (orderedPairs (List.finRange l.length)).map fun p => (l.get p.1, l.get p.2) := by
  conv_lhs => rw [← List.map_get_finRange l, orderedPairs_map]

theorem forall_mem_orderedPairs (r : α → α → Prop) (h : l.Pairwise r) : ∀ p ∈ orderedPairs l, r p.1 p.2 := by
  induction l with
  | nil => exact nofun
  | cons a l ih =>
    obtain ⟨ha, hl⟩ := List.pairwise_cons.1 h
    intro p hp
    rw [orderedPairs, List.mem_append, List.mem_map] at hp
    obtain ⟨b, hb, rfl⟩ | hp := hp
    · exact ha b hb
    · exact ih hl p hp

theorem mem_orderedPairs_iff [Preorder α] (h : l.Pairwise (· < ·)) {p : α × α} :
    p ∈ orderedPairs l ↔ p.1 ∈ l ∧ p.2 ∈ l ∧ p.1 < p.2 := by
  induction l with
  | nil => simp [orderedPairs]
  | cons a l ih =>
    obtain ⟨ha, hl⟩ := List.pairwise_cons.1 h
    obtain ⟨x, y⟩ := p
    simp only [orderedPairs, List.mem_append, List.mem_map, Prod.mk.injEq, ih hl, List.mem_cons]
    constructor
    · rintro (⟨b, hb, rfl, rfl⟩ | ⟨hx, hy, hlt⟩)
      · exact ⟨.inl rfl, .inr hb, ha b hb⟩
      · exact ⟨.inr hx, .inr hy, hlt⟩
    · rintro ⟨rfl | hx, rfl | hy, hlt⟩
      · exact absurd hlt (lt_irrefl _)
      · exact .inl ⟨y, hy, rfl, rfl⟩
      · exact absurd hlt (ha x hx).asymm
      · exact .inr ⟨hx, hy, hlt⟩

theorem nodup_orderedPairs [Preorder α] (h : l.Pairwise (· < ·)) : (orderedPairs l).Nodup := by
  induction l with
  | nil => exact List.nodup_nil
  | cons a l ih =>
    obtain ⟨ha, hl⟩ := List.pairwise_cons.1 h
    rw [orderedPairs, List.nodup_append]
    refine ⟨(hl.imp ne_of_lt).map _ fun b c hbc hp => hbc (congrArg Prod.snd hp), ih hl, ?_⟩
    rintro p hp q hq rfl
    obtain ⟨b, -, rfl⟩ := List.mem_map.1 hp
    exact lt_irrefl a (ha a ((mem_orderedPairs_iff hl).1 hq).1)

theorem orderedPairs_concat_perm (l : List α) (a : α) :
    (orderedPairs (l ++ [a])).Perm (orderedPairs l ++ l.map (·, a)) := by
  induction l with
  | nil => exact .refl _
  | cons b l ih =>
    simp only [List.cons_append, orderedPairs, List.map_append, List.map_cons, List.map_nil, List.append_assoc]
    apply List.Perm.append_left
    exact (ih.cons (b, a)).trans List.perm_middle.symm

theorem orderedPairs_reverse_perm (l : List α) :
    (orderedPairs l.reverse).Perm ((orderedPairs l).map Prod.swap) := by
  induction l with
  | nil => exact .refl _
  | cons a l ih =>
    rw [List.reverse_cons, orderedPairs, List.map_append, List.map_map]
    apply (orderedPairs_concat_perm l.reverse a).trans
    apply (ih.append (l.reverse_perm.map (·, a))).trans
    exact List.perm_append_comm

end Demarcation
