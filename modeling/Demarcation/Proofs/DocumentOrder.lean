import Mathlib.Data.List.Pairwise
import Demarcation.Grammar.Tree

namespace Demarcation.Grammar.Tree

variable {κ : Type}

/-- A walk with a stack, whose last tree is on top: the tree on top is visited, and its children are put on the stack
from right to left. -/
inductive Walks : List (Tree κ) → List (Tree κ) → Prop where
  | done : Walks [] []
  | next {stack nodes : List (Tree κ)} {t : Tree κ} :
      Walks (stack ++ t.children.reverse) nodes → Walks (stack ++ [t]) (t :: nodes)

theorem visit_cons (t : Tree κ) (pending : List (Tree κ)) :
    visit (fun _ => false) (t :: pending) = t :: visit (fun _ => false) (t.children ++ pending) := by
  rw [visit]
  rfl

theorem walks_iff {stack nodes : List (Tree κ)} :
    Walks stack nodes ↔ nodes = visit (fun _ => false) stack.reverse := by
  constructor
  · intro h
    induction h with
    | done => rw [List.reverse_nil, visit]
    | @next stack nodes t _ ih =>
      rw [List.reverse_append, List.reverse_reverse] at ih
      rw [List.reverse_append, List.reverse_singleton, List.singleton_append, visit_cons, ih]
  · rintro rfl
    generalize hpending : stack.reverse = pending
    induction pending using visit.induct (fun _ => false) generalizing stack with
    | case1 =>
      rw [List.reverse_eq_nil_iff.1 hpending, visit]
      exact .done
    | case2 t pending ih =>
      have hstack : stack = pending.reverse ++ [t] := by rw [← List.reverse_cons, ← hpending, List.reverse_reverse]
      subst hstack
      rw [visit_cons]
      exact .next (ih (by simp))

theorem visit_eq_preorders (ts : List (Tree κ)) : visit (fun _ => false) ts = preorders ts := by
  induction ts using visit.induct (fun _ => false) with
  | case1 => rw [visit, preorders]
  | case2 t pending ih =>
    have hrest : visit (fun _ => false) (t.children ++ pending) = preorders (t.children ++ pending) := ih
    rw [visit_cons, hrest, preorders_append, preorders]
    cases t with
    | node k l s n cs => rw [preorder, children, List.cons_append]

theorem visit_eq_preorder (t : Tree κ) : visit (fun _ => false) [t] = t.preorder := by
  rw [visit_eq_preorders, preorders, preorders, List.append_nil]

theorem sublist_preorders (ts : List (Tree κ)) : ts.Sublist (preorders ts) := by
  induction ts with
  | nil => exact List.nil_sublist _
  | cons t ts ih =>
    cases t with
    | node k l s n cs =>
      rw [preorders, preorder, List.cons_append]
      exact (ih.trans (List.sublist_append_right _ _)).cons_cons _

theorem children_sublist_preorder (t : Tree κ) : t.children.Sublist t.preorder := by
  cases t with
  | node k l s n cs =>
    rw [children, preorder]
    exact (sublist_preorders cs).cons _

def at? (t : Tree κ) : List Nat → Option (Tree κ)
  | [] => some t
  | i :: place => (t.children[i]?).bind (·.at? place)

mutual

def placed : Tree κ → List (List Nat × Tree κ)
  | node k l s n cs => ([], node k l s n cs) :: placedFrom 0 cs

def placedFrom (i : Nat) : List (Tree κ) → List (List Nat × Tree κ)
  | [] => []
  | t :: ts => (placed t).map (fun u => (i :: u.1, u.2)) ++ placedFrom (i + 1) ts

end

mutual

theorem map_snd_placed : ∀ t : Tree κ, (placed t).map Prod.snd = preorder t
  | node k l s n cs => by rw [placed, preorder, List.map_cons, map_snd_placedFrom 0 cs]

theorem map_snd_placedFrom (i : Nat) : ∀ ts : List (Tree κ), (placedFrom i ts).map Prod.snd = preorders ts
  | [] => by rw [placedFrom, preorders, List.map_nil]
  | t :: ts => by
    rw [placedFrom, preorders, List.map_append, map_snd_placedFrom (i + 1) ts, List.map_map, ← map_snd_placed t]
    rfl

end

mutual

theorem mem_placed_iff {place : List Nat} {u : Tree κ} : ∀ t : Tree κ, (place, u) ∈ placed t ↔ t.at? place = some u
  | node k l s n cs => by
    rw [placed, List.mem_cons, mem_placedFrom_iff 0 cs, Prod.mk.injEq]
    cases place with
    | nil => simp [at?, eq_comm]
    | cons i place => simp [at?, children, and_assoc]

theorem mem_placedFrom_iff {place : List Nat} {u : Tree κ} (i : Nat) :
    ∀ ts : List (Tree κ), (place, u) ∈ placedFrom i ts ↔
      ∃ j below, place = (i + j) :: below ∧ (ts[j]?).bind (·.at? below) = some u
  | [] => by simp [placedFrom]
  | t :: ts => by
    rw [placedFrom, List.mem_append, mem_placedFrom_iff (i + 1) ts, List.mem_map]
    constructor
    · rintro (⟨⟨below, v⟩, hv, hplace⟩ | ⟨j, below, rfl, hat⟩)
      · obtain ⟨rfl, rfl⟩ := Prod.mk.inj hplace
        exact ⟨0, below, rfl, (mem_placed_iff t).1 hv⟩
      · exact ⟨j + 1, below, by rw [Nat.add_right_comm, Nat.add_assoc], hat⟩
    · rintro ⟨j, below, rfl, hat⟩
      cases j with
      | zero => exact .inl ⟨(below, u), (mem_placed_iff t).2 hat, rfl⟩
      | succ j => exact .inr ⟨j, below, by rw [Nat.add_right_comm, Nat.add_assoc], hat⟩

end

mutual

theorem pairwise_placed : ∀ t : Tree κ, (placed t).Pairwise fun u v => u.1 < v.1
  | node k l s n cs => by
    rw [placed, List.pairwise_cons]
    refine ⟨?_, pairwise_placedFrom 0 cs⟩
    intro u hu
    obtain ⟨j, below, hplace, -⟩ := (mem_placedFrom_iff 0 cs).1 hu
    rw [hplace]
    exact List.nil_lt_cons _ _

theorem pairwise_placedFrom (i : Nat) : ∀ ts : List (Tree κ), (placedFrom i ts).Pairwise fun u v => u.1 < v.1
  | [] => .nil
  | t :: ts => by
    rw [placedFrom, List.pairwise_append, List.pairwise_map]
    refine ⟨?_, pairwise_placedFrom (i + 1) ts, ?_⟩
    · exact (pairwise_placed t).imp fun hlt => List.cons_lt_cons_iff.2 (.inr ⟨rfl, hlt⟩)
    · intro u hu v hv
      obtain ⟨w, -, rfl⟩ := List.mem_map.1 hu
      obtain ⟨j, below, hplace, -⟩ := (mem_placedFrom_iff (i + 1) ts).1 hv
      rw [hplace]
      exact List.cons_lt_cons_iff.2 (.inl (by omega))

end

/-- The nodes are those of a tree, each of them once, in the order of the places: a place comes before those below it,
and those below one child before those below a later one. -/
def InDocumentOrder (t : Tree κ) (nodes : List (Tree κ)) : Prop :=
  ∃ places : List (List Nat × Tree κ), nodes = places.map Prod.snd ∧ (places.Pairwise fun u v => u.1 < v.1) ∧
    ∀ place u, (place, u) ∈ places ↔ t.at? place = some u

theorem inDocumentOrder_preorder (t : Tree κ) : InDocumentOrder t t.preorder :=
  ⟨placed t, (map_snd_placed t).symm, pairwise_placed t, fun _ _ => mem_placed_iff t⟩

end Demarcation.Grammar.Tree
