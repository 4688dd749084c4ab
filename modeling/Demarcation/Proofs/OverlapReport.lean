import Mathlib.Tactic.NormNum
import Demarcation.Advice
import Demarcation.Proofs.CheckedArithmetic
import Demarcation.Proofs.Pairs
import Demarcation.Proofs.Strength

namespace Demarcation

open Checked

namespace Overlap

variable {R : Type}

def swap (o : Overlap R) : Overlap R := { o with first := o.second, second := o.first }

def checked (o : Overlap Rat) : Overlap Checked := ⟨o.first, o.second, o.kind, of o.strength, o.suggestion⟩

def Kind.all : List Kind := [.file, .semantic, .dependency]

theorem Kind.mem_all (kind : Kind) : kind ∈ all := by cases kind <;> decide

end Overlap

namespace Boundary

section Kinds

variable {R : Type} [Scalar R]

def strength (kind : Overlap.Kind) (a b : Boundary R) : R :=
  match kind with
  | .file => a.fileSet.jaccard R b.fileSet
  | .semantic => a.keywordSet.jaccard R b.keywordSet
  | .dependency => Scalar.ofNat (a.crossing b).size / Scalar.ofNat (a.dependencySet ∪ b.dependencySet).size

def suggestion (kind : Overlap.Kind) (a b : Boundary R) : String :=
  match kind with
  | .file => "Assign the shared files to a single boundary"
  | .semantic => "Clarify responsibilities or merge the boundaries"
  | .dependency => "Introduce an explicit interface for " ++ ", ".intercalate ((a.crossing b).toList.take 3)

def isFound (kind : Overlap.Kind) (a b : Boundary R) : Bool :=
  match kind with
  | .file => Scalar.lt (Scalar.ofNat 0) (strength .file a b)
  | .semantic => Scalar.lt (Scalar.decimal 5 1) (strength .semantic a b)
  | .dependency => !(a.crossing b).isEmpty

def overlapBy (kind : Overlap.Kind) (a b : Boundary R) : Overlap R :=
  ⟨a.name, b.name, kind, Scalar.share (strength kind a b), suggestion kind a b⟩

variable (a b : Boundary R)

theorem overlapsOf_eq : overlapsOf a b = (Overlap.Kind.all.filter (isFound · a b)).map (overlapBy · a b) := by
  have hcons (k : Overlap.Kind) (ks : List Overlap.Kind) : ((k :: ks).filter (isFound · a b)).map (overlapBy · a b) =
      (if isFound k a b then [overlapBy k a b] else []) ++ (ks.filter (isFound · a b)).map (overlapBy · a b) := by
    rw [List.filter_cons]
    split <;> rfl
  have hcrossing (x y : List (Overlap R)) : (if (a.crossing b).isEmpty then x else y) =
      if isFound .dependency a b then y else x := by
    by_cases h : (a.crossing b).isEmpty <;> simp [isFound, h]
  rw [Overlap.Kind.all, hcons, hcons, hcons, List.filter_nil, List.map_nil, List.append_nil, ← List.append_assoc]
  exact congrArg _ (hcrossing _ _)

omit [Scalar R] in
theorem crossing_comm : b.crossing a = a.crossing b := SortedSet.union_comm _ _

theorem strength_comm (kind : Overlap.Kind) : strength kind b a = strength kind a b := by
  cases kind with
  | file => exact SortedSet.jaccard_comm _ _ R
  | semantic => exact SortedSet.jaccard_comm _ _ R
  | dependency => rw [strength, strength, crossing_comm, SortedSet.union_comm]

theorem isFound_comm (kind : Overlap.Kind) : isFound kind b a = isFound kind a b := by
  cases kind with
  | file => rw [isFound, isFound, strength_comm]
  | semantic => rw [isFound, isFound, strength_comm]
  | dependency => rw [isFound, isFound, crossing_comm]

theorem overlapBy_comm (kind : Overlap.Kind) : overlapBy kind b a = (overlapBy kind a b).swap := by
  have hsuggestion : suggestion kind b a = suggestion kind a b := by
    cases kind with
    | file => rfl
    | semantic => rfl
    | dependency =>
      unfold suggestion
      rw [crossing_comm]
  simp only [overlapBy, Overlap.swap, strength_comm a b, hsuggestion]

theorem overlapsOf_comm : overlapsOf b a = (overlapsOf a b).map Overlap.swap := by
  simp only [overlapsOf_eq, isFound_comm a b, List.map_map]
  exact List.map_congr_left fun kind _ => overlapBy_comm a b kind

def DependsOn (a b : Boundary R) : Prop := ∃ name ∈ a.dependencies, name ∈ b.declarations

omit [Scalar R] in
theorem exists_mem_crossing_iff : (∃ name, name ∈ a.crossing b) ↔ DependsOn a b ∨ DependsOn b a := by
  simp only [crossing, dependencySet, declarationSet, SortedSet.mem_union, SortedSet.mem_inter, SortedSet.mem_ofList,
    exists_or, DependsOn]

theorem isFound_dependency_iff : isFound .dependency a b = true ↔ DependsOn a b ∨ DependsOn b a := by
  rw [isFound, Bool.not_eq_true', SortedSet.isEmpty_eq_false_iff, exists_mem_crossing_iff]

end Kinds

section Places

variable {R : Type} [Scalar R] (bs : List (Boundary R))

def foundPlaces : List (Fin bs.length × Fin bs.length × Overlap.Kind) :=
  (orderedPairs (List.finRange bs.length)).flatMap fun p =>
    (Overlap.Kind.all.filter (isFound · (bs.get p.1) (bs.get p.2))).map (p.1, p.2, ·)

theorem overlaps_eq_map :
    overlaps bs = (foundPlaces bs).map fun p => overlapBy p.2.2 (bs.get p.1) (bs.get p.2.1) := by
  rw [overlaps, orderedPairs_eq_map_get, List.flatMap_map, foundPlaces, List.map_flatMap]
  simp only [overlapsOf_eq, List.map_map]
  rfl

theorem mem_foundPlaces_iff {i j : Fin bs.length} {kind : Overlap.Kind} :
    (i, j, kind) ∈ foundPlaces bs ↔ i < j ∧ isFound kind (bs.get i) (bs.get j) = true := by
  simp only [foundPlaces, List.mem_flatMap, List.mem_map, List.mem_filter, Prod.mk.injEq,
    mem_orderedPairs_iff (List.pairwise_lt_finRange _), List.mem_finRange, true_and]
  constructor
  · rintro ⟨p, hlt, k, ⟨-, hfound⟩, rfl, rfl, rfl⟩
    exact ⟨hlt, hfound⟩
  · rintro ⟨hlt, hfound⟩
    exact ⟨(i, j), hlt, kind, ⟨kind.mem_all, hfound⟩, rfl, rfl, rfl⟩

theorem nodup_foundPlaces : (foundPlaces bs).Nodup := by
  rw [foundPlaces, List.nodup_flatMap]
  constructor
  · intro p _
    have hall : Overlap.Kind.all.Nodup := by decide
    apply (hall.filter _).map
    intro k k' h
    exact (Prod.mk.inj (Prod.mk.inj h).2).2
  · apply (nodup_orderedPairs (List.pairwise_lt_finRange _)).imp
    intro p q hpq s hp hq
    obtain ⟨k, -, rfl⟩ := List.mem_map.1 hp
    obtain ⟨k', -, h⟩ := List.mem_map.1 hq
    exact hpq (Prod.ext (Prod.mk.inj h).1.symm (Prod.mk.inj (Prod.mk.inj h).2).1.symm)

theorem overlaps_reverse_perm : (overlaps bs.reverse).Perm ((overlaps bs).map Overlap.swap) := by
  have hswap (p : Boundary R × Boundary R) : overlapsOf p.swap.1 p.swap.2 = (overlapsOf p.1 p.2).map Overlap.swap :=
    overlapsOf_comm p.1 p.2
  apply ((orderedPairs_reverse_perm bs).flatMap_right _).trans
  rw [overlaps, List.flatMap_map, List.map_flatMap]
  simp only [hswap]
  exact .refl _

end Places

section Exact

variable {kind : Overlap.Kind} {a b : Boundary Rat}

def Overlaps (kind : Overlap.Kind) (a b : Boundary Rat) : Prop :=
  match kind with
  | .file => ∃ file ∈ a.files, file ∈ b.files
  | .semantic => 1 / 2 < a.keywordSet.jaccard Rat b.keywordSet
  | .dependency => DependsOn a b ∨ DependsOn b a

theorem isFound_iff : isFound kind a b = true ↔ Overlaps kind a b := by
  cases kind with
  | file =>
    rw [isFound, Scalar.lt_rat, Scalar.ofNat_rat, Nat.cast_zero, strength, SortedSet.jaccard_pos_iff]
    simp only [fileSet, SortedSet.mem_ofList, Overlaps]
  | semantic =>
    have hhalf : (Scalar.decimal 5 1 : Rat) = 1 / 2 := by decide +kernel
    rw [isFound, Scalar.lt_rat, hhalf]
    rfl
  | dependency => exact isFound_dependency_iff a b

theorem size_crossing_le : (a.crossing b).size ≤ (a.dependencySet ∪ b.dependencySet).size := by
  apply SortedSet.size_le_size
  intro name h
  rw [SortedSet.mem_union]
  exact (SortedSet.mem_union.1 h).imp (fun h => (SortedSet.mem_inter.1 h).1) (fun h => (SortedSet.mem_inter.1 h).1)

theorem size_crossing_pos (h : Overlaps .dependency a b) :
    0 < (a.crossing b).size ∧ 0 < (a.dependencySet ∪ b.dependencySet).size := by
  -- names that cross are dependencies, so the divisor is not zero where the quotient is taken
  have hcrossing : 0 < (a.crossing b).size := SortedSet.size_pos_iff.2 ((exists_mem_crossing_iff a b).2 h)
  exact ⟨hcrossing, hcrossing.trans_le size_crossing_le⟩

theorem strength_bounds (h : Overlaps kind a b) : 0 < strength kind a b ∧ strength kind a b ≤ 1 := by
  cases kind with
  | file =>
    refine ⟨(SortedSet.jaccard_pos_iff _ _).2 ?_, SortedSet.jaccard_le_one _ _⟩
    simp only [fileSet, SortedSet.mem_ofList]
    exact h
  | semantic => exact ⟨lt_trans (by norm_num) h, SortedSet.jaccard_le_one _ _⟩
  | dependency =>
    obtain ⟨hcrossing, hunion⟩ := size_crossing_pos h
    rw [strength, Scalar.ofNat_rat, Scalar.ofNat_rat]
    constructor
    · exact div_pos (Nat.cast_pos.2 hcrossing) (Nat.cast_pos.2 hunion)
    · exact div_le_one_of_le₀ (Nat.cast_le.2 size_crossing_le) (Nat.cast_nonneg _)

theorem isFound_checked : isFound kind a.checked b.checked = isFound kind a b := by
  cases kind with
  | file => exact congrArg (Scalar.lt (Scalar.ofNat 0)) (jaccard_checked a.fileSet b.fileSet)
  | semantic => exact congrArg (Scalar.lt (Scalar.decimal 5 1)) (jaccard_checked a.keywordSet b.keywordSet)
  | dependency => rfl

theorem strength_checked (h : Overlaps kind a b) : strength kind a.checked b.checked = of (strength kind a b) := by
  cases kind with
  | file => exact jaccard_checked a.fileSet b.fileSet
  | semantic => exact jaccard_checked a.keywordSet b.keywordSet
  | dependency => exact length_of (size_crossing_pos h).2.ne' _

theorem overlapBy_checked (h : Overlaps kind a b) : overlapBy kind a.checked b.checked = (overlapBy kind a b).checked := by
  rw [overlapBy, strength_checked h, share_of]
  cases kind <;> rfl

theorem overlaps_checked (bs : List (Boundary Rat)) :
    overlaps (bs.map checked) = (overlaps bs).map Overlap.checked := by
  have hpair (a b : Boundary Rat) : overlapsOf a.checked b.checked = (overlapsOf a b).map Overlap.checked := by
    simp only [overlapsOf_eq, isFound_checked, List.map_map]
    apply List.map_congr_left
    intro kind hkind
    exact overlapBy_checked (isFound_iff.1 (List.mem_filter.1 hkind).2)
  rw [overlaps, overlaps, orderedPairs_map, List.flatMap_map, List.map_flatMap]
  simp only [hpair]

/-- For any two positions there is one overlap of each kind that the two boundaries have, and there are no others. Each
strength is above zero and at most one before it is rounded, and is not divided by zero. The reversed list has the same
overlaps with the two boundaries exchanged. -/
theorem overlaps_exact (bs : List (Boundary Rat)) :
    (∃ places : List (Fin bs.length × Fin bs.length × Overlap.Kind),
      places.Nodup ∧
      (∀ i j kind, (i, j, kind) ∈ places ↔ i < j ∧ Overlaps kind (bs.get i) (bs.get j)) ∧
      overlaps bs = places.map (fun p => overlapBy p.2.2 (bs.get p.1) (bs.get p.2.1)) ∧
      ∀ p ∈ places, 0 < strength p.2.2 (bs.get p.1) (bs.get p.2.1) ∧ strength p.2.2 (bs.get p.1) (bs.get p.2.1) ≤ 1) ∧
    overlaps (bs.map checked) = (overlaps bs).map Overlap.checked ∧
    (overlaps bs.reverse).Perm ((overlaps bs).map Overlap.swap) := by
  have hmem (i j : Fin bs.length) (kind : Overlap.Kind) :
      (i, j, kind) ∈ foundPlaces bs ↔ i < j ∧ Overlaps kind (bs.get i) (bs.get j) := by
    rw [mem_foundPlaces_iff, isFound_iff]
  refine ⟨⟨foundPlaces bs, nodup_foundPlaces bs, hmem, overlaps_eq_map bs, ?_⟩, overlaps_checked bs,
    overlaps_reverse_perm bs⟩
  rintro ⟨i, j, kind⟩ hp
  exact strength_bounds ((hmem i j kind).1 hp).2

end Exact

end Boundary

end Demarcation
