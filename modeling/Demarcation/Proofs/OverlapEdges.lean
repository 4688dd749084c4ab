import Demarcation.Proofs.GraphText
import Demarcation.Proofs.OverlapReport

namespace Demarcation

open Boundary

namespace Graph

section Namesakes

variable {R : Type} (bs : List (Boundary R)) (i j : Fin bs.length)

theorem exists_name : ∃ b ∈ bs, (b.name == (bs.get i).name) = true := ⟨bs.get i, List.get_mem bs i, beq_self_eq_true _⟩

def namesake : Fin bs.length :=
  ⟨bs.findIdx (·.name == (bs.get i).name), List.findIdx_lt_length_of_exists (exists_name bs i)⟩

theorem name_namesake : (bs.get (namesake bs i)).name = (bs.get i).name := by
  have hfound := List.findIdx_getElem (w := (namesake bs i).isLt)
  exact eq_of_beq hfound

theorem anchorOf?_name : anchorOf? bs (bs.get i).name = some (anchor (namesake bs i)) := by
  rw [anchorOf?, List.findIdx?_eq_some_of_exists (exists_name bs i)]
  rfl

variable {bs i j}

theorem namesake_eq_iff : namesake bs i = namesake bs j ↔ (bs.get i).name = (bs.get j).name := by
  constructor
  · intro h
    rw [← name_namesake bs i, h, name_namesake]
  · intro h
    apply Fin.ext
    simp only [namesake, h]

theorem namesake_eq_self_iff : namesake bs i = i ↔ ∀ k < i, (bs.get k).name ≠ (bs.get i).name := by
  rw [Fin.ext_iff, namesake, List.findIdx_eq i.isLt]
  constructor
  · rintro ⟨-, hbefore⟩ k hk
    exact ne_of_beq_false (hbefore k hk)
  · intro h
    refine ⟨beq_self_eq_true _, ?_⟩
    intro k hk
    exact beq_false_of_ne (h ⟨k, hk.trans i.isLt⟩ hk)

theorem namesake_eq_self (h : (bs.map (·.name)).Nodup) (i : Fin bs.length) : namesake bs i = i := by
  rw [namesake_eq_self_iff]
  intro k hk
  have hne := List.pairwise_iff_get.1 (List.pairwise_map.1 h)
  exact hne k i hk

theorem anchor_injective : Function.Injective anchor := by
  intro m n h
  have hdigits (n : Nat) : Nat.ofDigitChars 10 ((anchor n).toList.drop 1) 0 = n := by
    have hlist : (anchor n).toList = 'b' :: Nat.toDigits 10 n :=
      String.toList_append.trans (congrArg ('b' :: ·) Nat.toList_repr)
    rw [hlist, List.drop_one, List.tail_cons, Nat.ofDigitChars_toDigits (by decide) (by decide)]
  rw [← hdigits m, h, hdigits]

end Namesakes

section Joins

variable {R : Type} [Scalar R]

def linkBetween (bs : List (Boundary R)) (node : Fin bs.length → Fin bs.length) (i j : Fin bs.length) : Link R :=
  ⟨anchor (node i), anchor (node j), Scalar.share (Boundary.strength .dependency (bs.get i) (bs.get j))⟩

def Joins (r : Report R) (node : Fin r.boundaries.length → Fin r.boundaries.length) : Prop :=
  ∃ places : List (Fin r.boundaries.length × Fin r.boundaries.length), places.Nodup ∧
    (∀ i j, (i, j) ∈ places ↔ i < j ∧ (DependsOn (r.boundaries.get i) (r.boundaries.get j) ∨
      DependsOn (r.boundaries.get j) (r.boundaries.get i))) ∧
    r.toGraph = "\n".intercalate (["digraph Boundaries \x7b", "  rankdir=LR;", "  node [shape=box];"] ++
      (r.boundaries.zipIdx.flatMap fun p => cluster p.2 p.1) ++
      places.map (fun p => (linkBetween r.boundaries node p.1 p.2).line) ++ ["\x7d"])

def dependencyPlaces (bs : List (Boundary R)) : List (Fin bs.length × Fin bs.length) :=
  (foundPlaces bs).filterMap fun p => if p.2.2 = .dependency then some (p.1, p.2.1) else none

variable (bs : List (Boundary R))

theorem mem_dependencyPlaces_iff {i j : Fin bs.length} : (i, j) ∈ dependencyPlaces bs ↔
    i < j ∧ (DependsOn (bs.get i) (bs.get j) ∨ DependsOn (bs.get j) (bs.get i)) := by
  rw [← isFound_dependency_iff, ← mem_foundPlaces_iff, dependencyPlaces, List.mem_filterMap]
  constructor
  · rintro ⟨⟨i', j', kind⟩, hp, heq⟩
    obtain ⟨rfl, h⟩ := Option.ite_none_right_eq_some.1 heq
    obtain ⟨rfl, rfl⟩ := Prod.mk.inj (Option.some.inj h)
    exact hp
  · intro hp
    exact ⟨(i, j, .dependency), hp, rfl⟩

theorem nodup_dependencyPlaces : (dependencyPlaces bs).Nodup := by
  apply (nodup_foundPlaces bs).filterMap
  rintro ⟨i, j, kind⟩ ⟨i', j', kind'⟩ p hp hp'
  obtain ⟨rfl, hplace⟩ := Option.ite_none_right_eq_some.1 hp
  obtain ⟨rfl, hplace'⟩ := Option.ite_none_right_eq_some.1 hp'
  obtain ⟨rfl, rfl⟩ := Prod.mk.inj (Option.some.inj (hplace.trans hplace'.symm))
  rfl

theorem link?_overlapBy (i j : Fin bs.length) (kind : Overlap.Kind) :
    link? bs (overlapBy kind (bs.get i) (bs.get j)) =
      if kind = .dependency then some (linkBetween bs (namesake bs) i j) else none := by
  cases kind with
  | file => rfl
  | semantic => rfl
  | dependency =>
    rw [if_pos rfl, link?_eq_some_iff]
    exact ⟨rfl, anchorOf?_name bs i, anchorOf?_name bs j, rfl⟩

theorem filterMap_overlaps : (overlaps bs).filterMap (link? bs) =
    (dependencyPlaces bs).map fun p => linkBetween bs (namesake bs) p.1 p.2 := by
  rw [overlaps_eq_map, List.filterMap_map, dependencyPlaces, List.map_filterMap]
  apply List.filterMap_congr
  rintro ⟨i, j, kind⟩ -
  rw [Function.comp_apply, link?_overlapBy]
  split <;> rfl

variable {r : Report R}

theorem joins_namesake (h : r.analysis.overlaps = overlaps r.boundaries) : Joins r (namesake r.boundaries) := by
  refine ⟨dependencyPlaces r.boundaries, nodup_dependencyPlaces _, fun i j => mem_dependencyPlaces_iff _, ?_⟩
  rw [toGraph_eq, links, h, filterMap_overlaps, List.map_map]
  rfl

/-- The edges of a report with the overlaps of its boundaries. There is one for any two boundaries of which one uses what
the other declares. It joins the first boundaries with the names of the two, so it leads from a node to itself if these are
the same name, and joins the two themselves if no earlier boundary has one of the names. -/
theorem joins_of_overlaps (h : r.analysis.overlaps = overlaps r.boundaries) :
    Joins r (namesake r.boundaries) ∧
    ((r.boundaries.map (·.name)).Nodup → Joins r id) ∧
    (∀ i j, anchor (namesake r.boundaries i) = anchor (namesake r.boundaries j) ↔
      (r.boundaries.get i).name = (r.boundaries.get j).name) ∧
    ∀ i, namesake r.boundaries i = i ↔ ∀ k < i, (r.boundaries.get k).name ≠ (r.boundaries.get i).name := by
  refine ⟨joins_namesake h, ?_, ?_, fun i => namesake_eq_self_iff⟩
  · intro hnames
    have hid : namesake r.boundaries = id := funext (namesake_eq_self hnames)
    rw [← hid]
    exact joins_namesake h
  · intro i j
    rw [anchor_injective.eq_iff, Fin.val_inj, namesake_eq_iff]

end Joins

section Users

def usersAndOrders : List (Boundary Rat) := [
  { name := "user", description := "", confidence := 1, functions := ["save"] },
  { name := "order", description := "", confidence := 1, functions := ["pay"], dependencies := ["save", "load"] },
  { name := "user", description := "", confidence := 1, functions := ["load"], dependencies := ["save"] }]

def reportOf (bs : List (Boundary Rat)) : Report Rat where
  boundaries := bs
  metrics := .zero
  analysis := { quality := 1, overlaps := overlaps bs }

theorem joins_of_overlaps_usersAndOrders : (reportOf usersAndOrders).analysis.overlaps = overlaps usersAndOrders ∧
    Joins (reportOf usersAndOrders) (namesake usersAndOrders) :=
  ⟨rfl, (joins_of_overlaps (r := reportOf usersAndOrders) rfl).1⟩

def users : List (Boundary Rat) := [
  { name := "user", description := "", confidence := 1, functions := ["save"] },
  { name := "user", description := "", confidence := 1, functions := ["load"], dependencies := ["save"] }]

theorem not_joins_users : (reportOf users).analysis.overlaps = overlaps users ∧ ¬Joins (reportOf users) id := by
  refine ⟨rfl, ?_⟩
  rintro ⟨places, hnodup, hmem, htext⟩
  have hperm : places.Perm (dependencyPlaces users) := by
    rw [List.perm_ext_iff_of_nodup hnodup (nodup_dependencyPlaces users)]
    rintro ⟨i, j⟩
    exact (hmem i j).trans (mem_dependencyPlaces_iff users).symm
  have hplaces : dependencyPlaces users = [(⟨0, by decide⟩, ⟨1, by decide⟩)] := by decide +kernel
  -- the only edge would have to join the two, but it leads from the first to itself
  obtain rfl := List.perm_singleton.1 (hperm.trans (.of_eq hplaces))
  exact absurd htext (by decide +kernel)

end Users

end Graph

end Demarcation
