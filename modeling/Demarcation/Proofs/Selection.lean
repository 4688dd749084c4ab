import Mathlib.Data.List.Nodup
import Demarcation.Proofs.Umbrellas

namespace Demarcation

namespace Boundary

variable {R : Type}

def ofKind (b : Boundary R) : Declaration.Kind → List String
  | .struct => b.structs
  | .interface => b.interfaces
  | .function => b.functions

theorem mem_declarations_iff {b : Boundary R} {name : String} : name ∈ b.declarations ↔ ∃ kind, name ∈ b.ofKind kind := by
  rw [declarations, List.mem_append, List.mem_append]
  constructor
  · rintro ((h | h) | h)
    · exact ⟨.struct, h⟩
    · exact ⟨.interface, h⟩
    · exact ⟨.function, h⟩
  · rintro ⟨kind, h⟩
    cases kind with
    | struct => exact Or.inl (Or.inl h)
    | interface => exact Or.inl (Or.inr h)
    | function => exact Or.inr h

end Boundary

namespace Candidate

variable {R : Type} [Scalar R] {inv : Inventory} {threshold : R} {candidates : List (Candidate R)}

def scored (candidates : List (Candidate R)) : List (Scored R) :=
  (withOthers [] candidates).map fun p => (p.1, p.1.score p.2)

def weigh (threshold : R) (s : Scored R) : Option (Scored R) :=
  if s.1.declared then some (s.1, Scalar.ofNat 1)
  else if Scalar.lt (Scalar.roundTo 6 s.2) threshold then none else some (s.1, Scalar.roundTo 6 s.2)

theorem map_fst_withOthers {α : Type} (before l : List α) : (withOthers before l).map (·.1) = l := by
  induction l generalizing before with
  | nil => rfl
  | cons a l ih => rw [withOthers, List.map_cons, ih]

theorem map_fst_scored (candidates : List (Candidate R)) : (scored candidates).map (·.1) = candidates := by
  rw [scored, List.map_map]
  exact map_fst_withOthers [] candidates

theorem confident_eq_filterMap (threshold : R) (candidates : List (Candidate R)) :
    confident threshold candidates = (scored candidates).filterMap (weigh threshold) := by
  rw [scored, List.filterMap_map]
  rfl

theorem fst_of_weigh {s t : Scored R} (h : weigh threshold s = some t) : t.1 = s.1 := by
  rw [weigh] at h
  split at h
  · rw [← Option.some.inj h]
  · split at h
    · cases h
    · rw [← Option.some.inj h]

theorem weigh_of_declared {s : Scored R} (h : s.1.declared = true) :
    weigh threshold s = some (s.1, Scalar.ofNat 1) := if_pos h

theorem confident_sublist (threshold : R) (candidates : List (Candidate R)) :
    ((confident threshold candidates).map (·.1)).Sublist candidates := by
  rw [confident_eq_filterMap]
  conv_rhs => rw [← map_fst_scored candidates]
  induction scored candidates with
  | nil => exact List.Sublist.refl _
  | cons s l ih =>
    cases hs : weigh threshold s with
    | none =>
      rw [List.filterMap_cons_none hs]
      exact ih.cons _
    | some t =>
      rw [List.filterMap_cons_some hs, List.map_cons, List.map_cons, fst_of_weigh hs]
      exact ih.cons_cons _

theorem mem_of_mem_confident {s : Scored R} (h : s ∈ confident threshold candidates) : s.1 ∈ candidates :=
  (confident_sublist threshold candidates).subset (List.mem_map_of_mem h)

theorem mem_confident_of_declared {c : Candidate R} (hc : c ∈ candidates) (hd : c.declared = true) :
    (c, Scalar.ofNat 1) ∈ confident threshold candidates := by
  rw [← map_fst_scored candidates] at hc
  obtain ⟨s, hs, rfl⟩ := List.mem_map.1 hc
  rw [confident_eq_filterMap, List.mem_filterMap]
  exact ⟨s, hs, weigh_of_declared hd⟩

def chosen (inv : Inventory) (threshold : R) (candidates : List (Candidate R)) : List (Candidate R × Boundary R) :=
  (dropUmbrellas (confident threshold candidates)).map fun s => (s.1, s.1.toBoundary inv s.2)

theorem files_of_mem_chosen {p : Candidate R × Boundary R} (h : p ∈ chosen inv threshold candidates) :
    p.2.files = p.1.files.toList := by
  obtain ⟨s, -, rfl⟩ := List.mem_map.1 h
  rfl

theorem eq_of_files_eq (hapart : (candidates.map (·.files)).Nodup) {p q : Candidate R × Boundary R}
    (hp : p ∈ chosen inv threshold candidates) (hq : q ∈ chosen inv threshold candidates)
    (h : p.1.files = q.1.files) : p = q := by
  have hfiles : ((confident threshold candidates).map fun s => s.1.files).Nodup := by
    have hsub := ((confident_sublist threshold candidates).map (·.files)).nodup hapart
    rwa [List.map_map] at hsub
  obtain ⟨s, hs, rfl⟩ := List.mem_map.1 hp
  obtain ⟨t, ht, rfl⟩ := List.mem_map.1 hq
  rw [List.inj_on_of_nodup_map hfiles (mem_dropUmbrellas_iff.1 hs).1 (mem_dropUmbrellas_iff.1 ht).1 h]

theorem select_perm_chosen (inv : Inventory) (threshold : R) (candidates : List (Candidate R)) :
    (select inv threshold candidates).Perm (chosen inv threshold candidates) :=
  List.mergeSort_perm _ _

theorem mem_select_iff {p : Candidate R × Boundary R} :
    p ∈ select inv threshold candidates ↔
      ∃ s ∈ dropUmbrellas (confident threshold candidates), (s.1, s.1.toBoundary inv s.2) = p :=
  (select_perm_chosen inv threshold candidates).mem_iff.trans List.mem_map

theorem mem_of_mem_select {p : Candidate R × Boundary R} (h : p ∈ select inv threshold candidates) :
    p.1 ∈ candidates ∧ ∃ confidence, p.2 = p.1.toBoundary inv confidence := by
  obtain ⟨s, hs, rfl⟩ := mem_select_iff.1 h
  exact ⟨mem_of_mem_confident (mem_dropUmbrellas_iff.1 hs).1, s.2, rfl⟩

theorem mem_select_of_declared {c : Candidate R} (hc : c ∈ candidates) (hd : c.declared = true) :
    (c, c.toBoundary inv (Scalar.ofNat 1)) ∈ select inv threshold candidates := by
  refine mem_select_iff.2 ⟨(c, Scalar.ofNat 1), ?_, rfl⟩
  exact mem_dropUmbrellas_iff.2 ⟨mem_confident_of_declared hc hd, isUmbrella_of_declared _ hd⟩

theorem ofKind_toBoundary (c : Candidate R) (inv : Inventory) (confidence : R) (kind : Declaration.Kind) :
    (c.toBoundary inv confidence).ofKind kind = (c.namesOf inv kind).toList := by
  cases kind with
  | struct => rfl
  | interface => rfl
  | function => rfl

theorem mem_ofKind_toBoundary {c : Candidate R} {confidence : R} {kind : Declaration.Kind} {name : String} :
    name ∈ (c.toBoundary inv confidence).ofKind kind ↔ ∃ d ∈ c.declarations inv, d.kind = kind ∧ d.name = name := by
  rw [ofKind_toBoundary, ← SortedSet.mem_def, namesOf, SortedSet.mem_ofList, List.mem_map]
  simp only [List.mem_filter, beq_iff_eq, and_assoc]

end Candidate

end Demarcation
