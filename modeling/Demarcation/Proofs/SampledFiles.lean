import Mathlib.Data.Prod.Lex
import Mathlib.Data.String.Basic
import Demarcation.Proofs.EvenSpacing
import Demarcation.Proofs.FileWeights
import Demarcation.Proofs.Sorting

namespace Demarcation

open Text

namespace Path

theorem sort_eq (paths : List String) : sort paths = paths.mergeSort fun a b => components a ≤ components b := by
  apply mergeSort_congr
  intro a _ b _
  rw [Bool.eq_iff_iff, precedes, Bool.not_eq_true', decide_eq_false_iff_not, not_lt, decide_eq_true_eq]

variable {paths paths' : List String}

theorem sort_perm (paths : List String) : (sort paths).Perm paths := List.mergeSort_perm _ _

theorem sort_eq_of_perm (h : paths.Perm paths') (hdistinct : (paths.map components).Nodup) : sort paths = sort paths' := by
  rw [sort_eq, sort_eq]
  exact mergeSort_eq_of_perm h (List.inj_on_of_nodup_map hdistinct)

theorem pairwise_sort (hdistinct : (paths.map components).Nodup) :
    (sort paths).Pairwise fun a b => components a < components b := by
  rw [sort_eq]
  exact pairwise_lt_mergeSort hdistinct

end Path

namespace Sampling

variable {paths paths' sample : List String} {limit : Nat}

structure IsSample (limit : Nat) (paths sample : List String) : Prop where
  ascending : sample.Pairwise fun a b => components a < components b
  subset : sample ⊆ paths
  length : sample.length = min paths.length limit

section EvenlySpaced

theorem length_everyNth_take (hpos : 0 < limit) (hmany : limit < paths.length) :
    ((everyNth (paths.length / limit) 0 paths).take limit).length = limit := by
  have hlength := congrArg List.length (map_take_everyNth hpos hmany)
  simpa [keptPositions, multiples] using hlength

theorem exists_evenlySpaced (hpos : 0 < limit) (hdistinct : (paths.map components).Nodup) :
    ∃ sample, evenlySpaced limit paths = .ok sample ∧ IsSample limit paths sample := by
  have hperm := Path.sort_perm paths
  have hlimit : (limit : Int) ≠ 0 := by omega
  obtain ⟨sample, hsample⟩ := exists_strideSample (Path.sort paths) hlimit
  refine ⟨sample, hsample, ?_, ?_, ?_⟩
  · exact (Path.pairwise_sort hdistinct).sublist (strideSample_sublist hsample)
  · intro p hp
    exact hperm.mem_iff.1 ((strideSample_sublist hsample).subset hp)
  · rw [← hperm.length_eq]
    rcases Nat.lt_or_ge limit (Path.sort paths).length with hmany | hfew
    · rw [strideSample_eq hpos hmany] at hsample
      rw [← Except.ok.inj hsample, length_everyNth_take hpos hmany, Nat.min_eq_right hmany.le]
    · rw [strideSample, if_pos (by omega)] at hsample
      rw [← Except.ok.inj hsample, Nat.min_eq_left hfew]

theorem evenlySpaced_perm (h : paths.Perm paths') (hdistinct : (paths.map components).Nodup) (limit : Int) :
    evenlySpaced limit paths = evenlySpaced limit paths' := by
  rw [evenlySpaced, evenlySpaced, Path.sort_eq_of_perm h hdistinct]

end EvenlySpaced

section MostImportant

open LawfulScalar

variable {R : Type} [Scalar R] [LawfulScalar R] {sizeOf : String → Nat}

def rankKey (a : String × R) : (Place R)ᵒᵈ ×ₗ String := toLex (OrderDual.toDual (place a.2), a.1)

theorem ranksBefore_eq {a b : String × R} (ha : IsNumber a.2) (hb : IsNumber b.2) :
    ranksBefore R a b = decide (rankKey a ≤ rankKey b) := by
  have hab : Scalar.lt a.2 b.2 = true ↔ place a.2 < place b.2 := by rw [lt_iff, and_iff_right ha, and_iff_right hb]
  have hba : Scalar.lt b.2 a.2 = true ↔ place b.2 < place a.2 := by rw [lt_iff, and_iff_right hb, and_iff_right ha]
  rw [Bool.eq_iff_iff, decide_eq_true_eq, rankKey, rankKey, Prod.Lex.toLex_le_toLex, OrderDual.toDual_lt_toDual,
    OrderDual.toDual_inj, ranksBefore]
  simp only [hab, hba]
  rcases lt_trichotomy (place a.2) (place b.2) with h | h | h
  · simp [h, h.not_gt, h.ne]
  · simp [h]
  · simp [h]

def weighed (R : Type) [Scalar R] (sizeOf : String → Nat) (paths : List String) : List (String × R) :=
  paths.map fun p => (p, weight R p (sizeOf p))

def topRanked (R : Type) [Scalar R] (sizeOf : String → Nat) (limit : Nat) (paths : List String) : List String :=
  (((weighed R sizeOf paths).mergeSort (ranksBefore R)).take limit).map (·.1)

omit [LawfulScalar R] in
theorem map_fst_weighed (sizeOf : String → Nat) (paths : List String) : (weighed R sizeOf paths).map (·.1) = paths := by
  rw [weighed, List.map_map]
  exact List.map_id paths

omit [LawfulScalar R] in
theorem mem_weighed_iff {a : String × R} :
    a ∈ weighed R sizeOf paths ↔ a.1 ∈ paths ∧ a = (a.1, weight R a.1 (sizeOf a.1)) := by
  rw [weighed, List.mem_map]
  constructor
  · rintro ⟨p, hp, rfl⟩
    exact ⟨hp, rfl⟩
  · rintro ⟨hp, ha⟩
    exact ⟨a.1, hp, ha.symm⟩

theorem nodup_map_rankKey (hdistinct : paths.Nodup) : ((weighed R sizeOf paths).map rankKey).Nodup := by
  rw [weighed, List.map_map]
  apply hdistinct.map
  intro p q hkey
  exact congrArg (fun k => (ofLex k).2) hkey

variable (hnumber : ∀ p ∈ paths, IsNumber (weight R p (sizeOf p)))
include hnumber

theorem mergeSort_weighed :
    (weighed R sizeOf paths).mergeSort (ranksBefore R) =
      (weighed R sizeOf paths).mergeSort fun a b => rankKey a ≤ rankKey b := by
  have hnumbers : ∀ a ∈ weighed R sizeOf paths, IsNumber a.2 := List.forall_mem_map.2 hnumber
  apply mergeSort_congr
  intro a ha b hb
  exact ranksBefore_eq (hnumbers a ha) (hnumbers b hb)

theorem topRanked_perm (h : paths.Perm paths') (hdistinct : paths.Nodup) (limit : Nat) :
    topRanked R sizeOf limit paths = topRanked R sizeOf limit paths' := by
  have hnumber' : ∀ p ∈ paths', IsNumber (weight R p (sizeOf p)) := fun p hp => hnumber p (h.mem_iff.2 hp)
  have hweighed : (weighed R sizeOf paths).Perm (weighed R sizeOf paths') := h.map _
  rw [topRanked, topRanked, mergeSort_weighed hnumber, mergeSort_weighed hnumber',
    mergeSort_eq_of_perm hweighed (List.inj_on_of_nodup_map (nodup_map_rankKey hdistinct))]

theorem rankKey_lt_of_mem_topRanked (hdistinct : paths.Nodup) {p q : String}
    (hp : p ∈ topRanked R sizeOf limit paths) (hq : q ∈ paths) (hcut : q ∉ topRanked R sizeOf limit paths) :
    rankKey (p, weight R p (sizeOf p)) < rankKey (q, weight R q (sizeOf q)) := by
  rw [topRanked, mergeSort_weighed hnumber] at hp hcut
  obtain ⟨a, ha, rfl⟩ := List.mem_map.1 hp
  have haweighed := List.mem_mergeSort.1 (List.mem_of_mem_take ha)
  rw [← (mem_weighed_iff.1 haweighed).2]
  refine key_lt_of_mem_take (nodup_map_rankKey hdistinct) ha (List.mem_map_of_mem hq) ?_
  intro hkept
  exact hcut (List.mem_map.2 ⟨_, hkept, rfl⟩)

omit hnumber [LawfulScalar R]

theorem topRanked_subperm : (topRanked R sizeOf limit paths).Subperm paths := by
  have hsub := (List.take_sublist limit ((weighed R sizeOf paths).mergeSort (ranksBefore R))).map (·.1)
  have hperm := (List.mergeSort_perm (weighed R sizeOf paths) (ranksBefore R)).map (·.1)
  rw [map_fst_weighed] at hperm
  exact hsub.subperm.trans hperm.subperm

theorem length_topRanked : (topRanked R sizeOf limit paths).length = min paths.length limit := by
  rw [topRanked, List.length_map, List.length_take, List.length_mergeSort, weighed, List.length_map, Nat.min_comm]

theorem mostImportant_eq (hdistinct : (paths.map components).Nodup) :
    mostImportant R sizeOf limit paths = Path.sort (topRanked R sizeOf limit paths) := by
  rw [mostImportant]
  split
  · rename_i hfew
    have hperm : (topRanked R sizeOf limit paths).Perm paths := by
      apply topRanked_subperm.perm_of_length_le
      rw [length_topRanked, Nat.min_eq_left hfew]
    exact Path.sort_eq_of_perm hperm.symm hdistinct
  · rfl

theorem isSample_mostImportant (hdistinct : (paths.map components).Nodup) :
    IsSample limit paths (mostImportant R sizeOf limit paths) := by
  have hperm := Path.sort_perm (topRanked R sizeOf limit paths)
  have htop : ((topRanked R sizeOf limit paths).map components).Nodup := by
    have hsubperm : (topRanked R sizeOf limit paths).Subperm paths := topRanked_subperm
    obtain ⟨kept, hkept, hsub⟩ := hsubperm
    exact (hkept.map components).nodup_iff.1 (hdistinct.sublist (hsub.map components))
  rw [mostImportant_eq hdistinct]
  refine ⟨Path.pairwise_sort htop, ?_, ?_⟩
  · intro p hp
    exact topRanked_subperm.subset (hperm.mem_iff.1 hp)
  · rw [hperm.length_eq, length_topRanked]

end MostImportant

def Outranks (sizeOf : String → Nat) (p q : String) : Prop :=
  weight Float q (sizeOf q) < weight Float p (sizeOf p) ∨
    weight Float p (sizeOf p) = weight Float q (sizeOf q) ∧ p < q

theorem outranks_of_rankKey_lt {sizeOf : String → Nat} {p q : String}
    (h : rankKey (p, weight Float p (sizeOf p)) < rankKey (q, weight Float q (sizeOf q))) : Outranks sizeOf p q := by
  have hp := FloatOrder.isPositive_weight p (sizeOf p)
  have hq := FloatOrder.isPositive_weight q (sizeOf q)
  rw [rankKey, rankKey, Prod.Lex.toLex_lt_toLex, OrderDual.toDual_lt_toDual, OrderDual.toDual_inj] at h
  rcases h with hplace | ⟨hplace, hpath⟩
  · left
    exact of_decide_eq_true (FloatOrder.lt_iff_placeOf.2 ⟨hq.isNaN, hp.isNaN, hplace⟩)
  · right
    exact ⟨hp.eq_of_placeOf_eq hq hplace, hpath⟩

/-- The even and the important sample do not depend on the order of the paths, and every file that the important one keeps
outranks every file that it drops. -/
theorem samples_order_independent (sizeOf : String → Nat) (hpos : 0 < limit) (hperm : paths.Perm paths')
    (hdistinct : (paths.map components).Nodup) :
    (∃ sample, evenlySpaced limit paths = .ok sample ∧ evenlySpaced limit paths' = .ok sample ∧
        IsSample limit paths sample) ∧
      ∃ sample, mostImportant Float sizeOf limit paths = sample ∧ mostImportant Float sizeOf limit paths' = sample ∧
        IsSample limit paths sample ∧ ∀ p ∈ sample, ∀ q ∈ paths, q ∉ sample → Outranks sizeOf p q := by
  have hnumber : ∀ p ∈ paths, LawfulScalar.IsNumber (weight Float p (sizeOf p)) :=
    fun p _ => (FloatOrder.isPositive_weight p (sizeOf p)).isNaN
  have hpaths : paths.Nodup := hdistinct.of_map components
  have hdistinct' : (paths'.map components).Nodup := (hperm.map components).nodup_iff.1 hdistinct
  constructor
  · obtain ⟨sample, hsample, hkept⟩ := exists_evenlySpaced hpos hdistinct
    exact ⟨sample, hsample, (evenlySpaced_perm hperm hdistinct limit).symm.trans hsample, hkept⟩
  · refine ⟨_, rfl, ?_, isSample_mostImportant hdistinct, ?_⟩
    · rw [mostImportant_eq hdistinct, mostImportant_eq hdistinct', topRanked_perm hnumber hperm hpaths]
    · intro p hp q hq hcut
      rw [mostImportant_eq hdistinct, (Path.sort_perm _).mem_iff] at hp hcut
      exact outranks_of_rankKey_lt (rankKey_lt_of_mem_topRanked hnumber hpaths hp hq hcut)

def shopPaths : List String := ["shop/cart.go", "shop-web/cart.go", "shop/order/store/file.go", "main.go"]

theorem samples_order_independent_shop :
    0 < 2 ∧ shopPaths.Perm shopPaths.reverse ∧ (shopPaths.map components).Nodup ∧
      mostImportant Float (fun _ => 0) 2 shopPaths.reverse = mostImportant Float (fun _ => 0) 2 shopPaths ∧
        IsSample 2 shopPaths (mostImportant Float (fun _ => 0) 2 shopPaths) := by
  have hperm : shopPaths.Perm shopPaths.reverse := (List.reverse_perm _).symm
  have hdistinct : (shopPaths.map components).Nodup := by decide +kernel
  obtain ⟨-, sample, hsample, hreverse, hkept, -⟩ :=
    samples_order_independent (fun _ => 0) (by decide : 0 < 2) hperm hdistinct
  refine ⟨by decide, hperm, hdistinct, hreverse.trans hsample.symm, ?_⟩
  rw [hsample]
  exact hkept

end Sampling

end Demarcation
