import Mathlib.Tactic.NormNum
import Demarcation.Proofs.CheckedArithmetic
import Demarcation.Proofs.MergedGroups
import Demarcation.Proofs.Regrouping
import Demarcation.Proofs.ReportRoundTrip
import Demarcation.Proofs.Strength
import Demarcation.Proofs.Umbrellas
import Demarcation.Proofs.UsageOverlap

namespace Demarcation

open Checked

section Means

variable {a b : Rat} {xs : List Rat}

theorem Scalar.le_mean (hne : xs ≠ []) (h : ∀ x ∈ xs, a ≤ x) : a ≤ Scalar.mean xs := by
  obtain ⟨x, hx, hle⟩ := Scalar.exists_le_mean hne
  exact (h x hx).trans hle

theorem Scalar.mean_le (hne : xs ≠ []) (h : ∀ x ∈ xs, x ≤ b) : Scalar.mean xs ≤ b := by
  obtain ⟨x, hx, hle⟩ := Scalar.exists_mean_le hne
  exact hle.trans (h x hx)

theorem Scalar.mean_mem_Icc (hb : 0 ≤ b) (h : ∀ x ∈ xs, 0 ≤ x ∧ x ≤ b) : 0 ≤ Scalar.mean xs ∧ Scalar.mean xs ≤ b := by
  by_cases hne : xs = []
  · have hzero : Scalar.mean xs = 0 := by
      rw [hne]
      exact Scalar.ofNat_rat 0
    rw [hzero]
    exact ⟨le_refl 0, hb⟩
  · exact ⟨Scalar.le_mean hne fun x hx => (h x hx).1, Scalar.mean_le hne fun x hx => (h x hx).2⟩

end Means

section Overlaps

variable {α : Type} [LT α] [DecidableLT α] [Ordered α] {s t : SortedSet α}

theorem SortedSet.jaccard_le_half [DecidableEq α] (h : 2 * (s ∩ t).size ≤ (s ∪ t).size) : s.jaccard Rat t ≤ 1 / 2 := by
  rw [jaccard_rat]
  have hle : (2 : Rat) * (s ∩ t).size ≤ (s ∪ t).size := by exact_mod_cast h
  apply div_le_of_le_mul₀ (Nat.cast_nonneg _) (by norm_num)
  linarith

theorem SortedSet.ofList_toList (s : SortedSet α) : SortedSet.ofList s.toList = s :=
  SortedSet.ext fun _ => SortedSet.mem_ofList

end Overlaps

namespace Candidate

variable {inv : Inventory} {threshold : Rat} {candidates : List (Candidate Rat)}

def Apart (c d : Candidate Rat) : Prop := c.files.jaccard Rat d.files ≤ 1 / 2

theorem Apart.symm {c d : Candidate Rat} (h : Apart c d) : Apart d c := by
  rwa [Apart, SortedSet.jaccard_comm]

theorem pairwise_apart_mergeAll (arena : Option Inventory) (maxCandidates : Int) (candidates : List (Candidate Rat)) :
    (mergeAll arena maxCandidates candidates).Pairwise Apart := by
  apply (mergeAll_pairwise_not_joins (fileFeature_mem_mergeFeatures arena) maxCandidates candidates).imp
  intro c d h
  exact SortedSet.jaccard_le_half (Nat.not_lt.1 (mt fileFeature_joins.2 (Bool.eq_false_iff.1 h)))

section Isolation

theorem rel_of_mem_withOthers {α : Type} {r : α → α → Prop} (hr : ∀ {a b}, r a b → r b a) {before l : List α}
    (h : (before ++ l).Pairwise r) : ∀ p ∈ withOthers before l, ∀ b ∈ p.2, r p.1 b := by
  induction l generalizing before with
  | nil => exact nofun
  | cons a l ih =>
    intro p hp
    rw [withOthers, List.mem_cons] at hp
    obtain rfl | hp := hp
    · obtain ⟨-, hlater, hacross⟩ := List.pairwise_append.1 h
      intro b hb
      obtain hb | hb := List.mem_append.1 hb
      · exact hr (hacross b hb a List.mem_cons_self)
      · exact (List.pairwise_cons.1 hlater).1 b hb
    · refine ih ?_ p hp
      rwa [List.append_assoc, List.singleton_append]

theorem half_le_isolationScore {c : Candidate Rat} {others : List (Candidate Rat)} (h : ∀ d ∈ others, Apart c d) :
    1 / 2 ≤ c.isolationScore others := by
  have hmax {o : Rat} {os : List Rat} (h : ∀ x ∈ o :: os, x ≤ 1 / 2) : os.foldl Scalar.max o ≤ 1 / 2 := by
    induction os generalizing o with
    | nil => exact h o List.mem_cons_self
    | cons x os ih =>
      obtain ⟨ho, hos⟩ := List.forall_mem_cons.1 h
      obtain ⟨hx, hos⟩ := List.forall_mem_cons.1 hos
      refine ih (List.forall_mem_cons.2 ⟨?_, hos⟩)
      rw [Scalar.max_rat]
      exact sup_le ho hx
  have hoverlaps : ∀ x ∈ others.map (fun d => c.files.jaccard Rat d.files), x ≤ 1 / 2 := List.forall_mem_map.2 h
  rw [isolationScore]
  cases hlist : others.map fun d => c.files.jaccard Rat d.files with
  | nil =>
    simp only [Scalar.ofNat_rat]
    norm_num
  | cons o os =>
    rw [hlist] at hoverlaps
    have hbound := hmax hoverlaps
    simp only [Scalar.ofNat_rat]
    push_cast
    linarith

theorem half_le_isolationScore_of_pairwise (h : candidates.Pairwise Apart) :
    ∀ p ∈ withOthers [] candidates, 1 / 2 ≤ p.1.isolationScore p.2 := by
  have hall : ([] ++ candidates).Pairwise Apart := h
  exact fun p hp => half_le_isolationScore (rel_of_mem_withOthers Apart.symm hall p hp)

end Isolation

section Confidence

theorem isShare_score (c : Candidate Rat) (others : List (Candidate Rat)) : IsShare (Scalar.roundTo 6 (c.score others)) :=
  ⟨_, rfl⟩

theorem isShare_one : IsShare (Scalar.ofNat 1 : Rat) := ⟨1, by decide +kernel⟩

theorem le_confidence {p : Candidate Rat × Boundary Rat} (h : p ∈ select inv threshold candidates) :
    IsShare p.2.confidence ∧ min threshold 1 ≤ p.2.confidence := by
  obtain ⟨s, hs, rfl⟩ := mem_select_iff.1 h
  have hconfident := (mem_dropUmbrellas_iff.1 hs).1
  rw [confident_eq_filterMap, List.mem_filterMap] at hconfident
  obtain ⟨u, hu, hweigh⟩ := hconfident
  obtain ⟨q, -, rfl⟩ := List.mem_map.1 hu
  have hkept : IsShare s.2 ∧ min threshold 1 ≤ s.2 := by
    rw [weigh] at hweigh
    split at hweigh
    · rw [← Option.some.inj hweigh]
      refine ⟨isShare_one, ?_⟩
      rw [Scalar.ofNat_rat, Nat.cast_one]
      exact min_le_right _ _
    · split at hweigh
      · cases hweigh
      · next hnot =>
        rw [← Option.some.inj hweigh]
        exact ⟨isShare_score _ _, (min_le_left _ _).trans (not_lt.1 (mt Scalar.lt_rat.2 hnot))⟩
  have hconfidence : (s.1.toBoundary inv s.2).confidence = s.2 := share_of_isShare hkept.1
  exact ⟨⟨s.2, rfl⟩, hconfidence.symm ▸ hkept.2⟩

theorem databaseScore_bounds (c : Candidate Rat) : 0 ≤ c.databaseScore ∧ c.databaseScore ≤ 1 := by
  rw [databaseScore]
  split
  · decide +kernel
  · split
    · decide +kernel
    · split
      · decide +kernel
      · decide +kernel

end Confidence

section Chosen

theorem pairwise_apart_select (h : candidates.Pairwise Apart) :
    (select inv threshold candidates).Pairwise fun p q => Apart p.1 q.1 := by
  have hconfident : (confident threshold candidates).Pairwise fun s t => Apart s.1 t.1 :=
    List.pairwise_map.1 (h.sublist (confident_sublist threshold candidates))
  have hsorted : (byFileCount (confident threshold candidates)).Pairwise fun s t => Apart s.1 t.1 :=
    (List.Perm.pairwise_iff Apart.symm (List.mergeSort_perm _ _)).2 hconfident
  have hkept : (dropUmbrellas (confident threshold candidates)).Pairwise fun s t => Apart s.1 t.1 := by
    rw [dropUmbrellas_eq_filter]
    exact hsorted.filter _
  exact (List.Perm.pairwise_iff Apart.symm (select_perm_chosen inv threshold candidates)).2 (List.pairwise_map.2 hkept)

theorem fileSet_of_mem_select {p : Candidate Rat × Boundary Rat} (h : p ∈ select inv threshold candidates) :
    SortedSet.ofList p.2.files = p.1.files := by
  obtain ⟨-, x, hx⟩ := mem_of_mem_select h
  have hfiles : p.2.files = p.1.files.toList := congrArg Boundary.files hx
  rw [hfiles, SortedSet.ofList_toList]

theorem jaccard_files_select (h : candidates.Pairwise Apart) :
    ∀ p ∈ orderedPairs ((select inv threshold candidates).map (·.2)),
      (SortedSet.ofList p.1.files).jaccard Rat (SortedSet.ofList p.2.files) ≤ 1 / 2 := by
  have hpairwise : ((select inv threshold candidates).map (·.2)).Pairwise fun b d =>
      (SortedSet.ofList b.files).jaccard Rat (SortedSet.ofList d.files) ≤ 1 / 2 := by
    rw [List.pairwise_map]
    refine (pairwise_apart_select h).imp_of_mem fun hp hq hapart => ?_
    rw [fileSet_of_mem_select hp, fileSet_of_mem_select hq]
    exact hapart
  exact forall_mem_orderedPairs _ hpairwise

end Chosen

end Candidate

namespace Metrics

open Candidate

variable {inv : Inventory} {threshold : Rat} {candidates : List (Candidate Rat)}
  {pairs : List (Candidate Rat × Boundary Rat)}

theorem structural_bounds (pairs : List (Candidate Rat × Boundary Rat)) :
    0 ≤ (measured pairs).structural ∧ (measured pairs).structural ≤ 1 := by
  simp only [measured, Scalar.ofNat_rat]
  refine ⟨div_nonneg (Nat.cast_nonneg _) (Nat.cast_nonneg _), div_le_one_of_le₀ ?_ (Nat.cast_nonneg _)⟩
  exact Nat.cast_le.2 (List.length_filter_le _ _)

theorem clarity_bounds (inv : Inventory) (threshold : Rat) (h : candidates.Pairwise Apart) :
    1 / 2 ≤ (measured (select inv threshold candidates)).clarity ∧
      (measured (select inv threshold candidates)).clarity ≤ 1 := by
  have hshares : ∀ x ∈ (orderedPairs ((select inv threshold candidates).map (·.2))).map
      (fun p => (SortedSet.ofList p.1.files).jaccard Rat (SortedSet.ofList p.2.files)), 0 ≤ x ∧ x ≤ 1 / 2 :=
    List.forall_mem_map.2 fun p hp => ⟨SortedSet.jaccard_nonneg _ _, jaccard_files_select h p hp⟩
  have hmean := Scalar.mean_mem_Icc (by norm_num) hshares
  simp only [measured, Scalar.ofNat_rat]
  push_cast
  constructor <;> linarith [hmean.1, hmean.2]

theorem database_bounds (pairs : List (Candidate Rat × Boundary Rat)) :
    0 ≤ (measured pairs).database ∧ (measured pairs).database ≤ 1 :=
  Scalar.mean_mem_Icc zero_le_one (List.forall_mem_map.2 fun p _ => databaseScore_bounds p.1)

theorem semantic_bounds (inv : Inventory) (threshold : Rat) (h : ∀ c ∈ candidates, 0 ≤ c.cohesion ∧ c.cohesion ≤ 1) :
    0 ≤ (measured (select inv threshold candidates)).semantic ∧
      (measured (select inv threshold candidates)).semantic ≤ 1 :=
  Scalar.mean_mem_Icc zero_le_one (List.forall_mem_map.2 fun _ hp => h _ (mem_of_mem_select hp).1)

theorem confidence_bounds {p : Candidate Rat × Boundary Rat} (h : p ∈ select inv threshold candidates) :
    0 ≤ p.2.confidence ∧ p.2.confidence ≤ 1 := by
  rw [← share_of_isShare (le_confidence h).1]
  obtain ⟨k, hk, hshare⟩ := exists_eq_millionths ⟨p.2.confidence, rfl⟩
  rw [hshare]
  exact ⟨div_nonneg (Nat.cast_nonneg _) (Nat.cast_nonneg _), div_le_one_of_le₀ (Nat.cast_le.2 hk) (Nat.cast_nonneg _)⟩

theorem overall_bounds (inv : Inventory) (threshold : Rat) (candidates : List (Candidate Rat)) :
    0 ≤ (measured (select inv threshold candidates)).overall ∧
      (measured (select inv threshold candidates)).overall ≤ 1 :=
  Scalar.mean_mem_Icc zero_le_one
    (List.forall_mem_map.2 (List.forall_mem_map.2 fun _ hp => confidence_bounds hp))

theorem le_share_overall (hne : select inv threshold candidates ≠ []) :
    min threshold 1 ≤ (measured (select inv threshold candidates)).overall ∧
      min threshold 1 ≤ Scalar.share (measured (select inv threshold candidates)).overall := by
  have hconfidences : ((select inv threshold candidates).map (·.2)).map (·.confidence) ≠ [] := by
    rw [List.map_map]
    exact List.map_eq_nil_iff.not.2 hne
  -- Rounding is monotone, and some confidence that is not above the mean is a rounded number already.
  obtain ⟨x, hx, hle⟩ := Scalar.exists_le_mean hconfidences
  rw [List.map_map] at hx
  obtain ⟨p, hp, rfl⟩ := List.mem_map.1 hx
  obtain ⟨hshare, hthreshold⟩ := le_confidence hp
  exact ⟨hthreshold.trans hle, hthreshold.trans (le_share hshare hle (overall_bounds inv threshold candidates).2)⟩

theorem half_le_share_clarity (inv : Inventory) (threshold : Rat) (h : candidates.Pairwise Apart) :
    1 / 2 ≤ Scalar.share (measured (select inv threshold candidates)).clarity := by
  have hhalf : IsShare (1 / 2 : Rat) := ⟨1 / 2, by decide +kernel⟩
  obtain ⟨hlow, hhigh⟩ := clarity_bounds inv threshold h
  exact le_share hhalf hlow hhigh

theorem shares_bounds (inv : Inventory) (threshold : Rat) (hapart : candidates.Pairwise Apart)
    (hcohesion : ∀ c ∈ candidates, 0 ≤ c.cohesion ∧ c.cohesion ≤ 1) :
    ∀ x ∈ (measured (select inv threshold candidates)).shares, 0 ≤ x ∧ x ≤ 1 := by
  obtain ⟨hlow, hhigh⟩ := clarity_bounds inv threshold hapart
  have hnonneg : 0 ≤ (measured (select inv threshold candidates)).clarity := le_trans (by norm_num) hlow
  simp only [shares, List.forall_mem_cons]
  exact ⟨overall_bounds inv threshold candidates, semantic_bounds inv threshold hcohesion, structural_bounds _,
    ⟨hnonneg, hhigh⟩, database_bounds _, List.forall_mem_nil _⟩

theorem ofSelection_of_ne_nil (h : pairs ≠ []) : ofSelection pairs = (measured pairs).map Scalar.share :=
  if_neg (mt List.isEmpty_iff.1 h)

/-- What is measured on boundaries that are chosen from merged candidates are shares before they are brought between zero and
one. The clarity is at least one half, and so is the isolation of each merged candidate. The overall confidence reaches the
threshold if that is at most one. Nothing is divided by zero on the way. -/
theorem measured_bounds (arena : Option Inventory) (inv : Inventory) (maxCandidates : Int) (threshold : Rat)
    (candidates : List (Candidate Rat)) (hcohesion : ∀ c ∈ candidates, 0 ≤ c.cohesion ∧ c.cohesion ≤ 1)
    (hpairs : pairs = select inv threshold (mergeAll arena maxCandidates candidates)) (hne : pairs ≠ []) :
    (∀ x ∈ (measured pairs).shares, 0 ≤ x ∧ x ≤ 1) ∧
    (1 / 2 ≤ (measured pairs).clarity ∧ 1 / 2 ≤ (ofSelection pairs).clarity) ∧
    (min threshold 1 ≤ (measured pairs).overall ∧ min threshold 1 ≤ (ofSelection pairs).overall) ∧
    (∀ p ∈ withOthers [] (mergeAll arena maxCandidates candidates), 1 / 2 ≤ p.1.isolationScore p.2) ∧
    select inv (of threshold) (mergeAll arena maxCandidates (candidates.map Candidate.checked)) = pairs.map checkedPair ∧
    measured (pairs.map checkedPair) = (measured pairs).checked ∧
    (ofSelection pairs).checked.quality = of (ofSelection pairs).quality ∧
    ∀ group, nameCohesion Checked group = of (nameCohesion Rat group) ∧
      semanticCohesion Checked group = of (semanticCohesion Rat group) := by
  subst hpairs
  have hapart := pairwise_apart_mergeAll arena maxCandidates candidates
  have hmerged : ∀ c ∈ mergeAll arena maxCandidates candidates, 0 ≤ c.cohesion ∧ c.cohesion ≤ 1 :=
    Candidate.forall_mem_mergeAll (fun _ _ h => (averages_combine arena h).bounded) hcohesion
  obtain ⟨hoverall, hshare⟩ := le_share_overall hne
  refine ⟨shares_bounds inv threshold hapart hmerged, ⟨(clarity_bounds inv threshold hapart).1, ?_⟩, ⟨hoverall, ?_⟩, ?_, ?_,
    measured_checked hne, quality_checked _, fun group => ⟨nameCohesion_checked group, semanticCohesion_checked group⟩⟩
  · rw [ofSelection_of_ne_nil hne]
    exact half_le_share_clarity inv threshold hapart
  · rw [ofSelection_of_ne_nil hne]
    exact hshare
  · exact half_le_isolationScore_of_pairwise hapart
  · rw [mergeAll_checked, select_checked]

section Modules

def ledgerAndCart : List (Candidate Rat) := [
  { name := "ledger", files := SortedSet.ofList ["ledger/a.go", "ledger/b.go"], cohesion := 1, declared := true },
  { name := "cart", files := SortedSet.ofList ["cart/a.go"], cohesion := 1 / 2 }]

theorem measured_bounds_ledgerAndCart :
    (∀ c ∈ ledgerAndCart, 0 ≤ c.cohesion ∧ c.cohesion ≤ 1) ∧
      select {} (1 / 2) (mergeAll none 400 ledgerAndCart) ≠ [] ∧
      1 / 2 ≤ (ofSelection (select {} (1 / 2) (mergeAll none 400 ledgerAndCart))).overall := by
  have hcohesion : ∀ c ∈ ledgerAndCart, 0 ≤ c.cohesion ∧ c.cohesion ≤ 1 := by decide +kernel
  have hne : select {} (1 / 2) (mergeAll none 400 ledgerAndCart) ≠ [] := by
    have hdeclared : (mergeAll none 400 ledgerAndCart).any (·.declared) := by decide +kernel
    obtain ⟨c, hc, hd⟩ := List.any_eq_true.1 hdeclared
    exact List.ne_nil_of_mem (mem_select_of_declared hc hd)
  have hoverall := (measured_bounds none {} 400 (1 / 2) ledgerAndCart hcohesion rfl hne).2.2.1.2
  rw [min_eq_left (by norm_num)] at hoverall
  exact ⟨hcohesion, hne, hoverall⟩

theorem overall_lt_threshold :
    select {} 2 (mergeAll none 400 ledgerAndCart) ≠ [] ∧
      ¬ 2 ≤ (ofSelection (select {} 2 (mergeAll none 400 ledgerAndCart))).overall := by
  have hlength : (select {} 2 (mergeAll none 400 ledgerAndCart)).length = 1 := by decide +kernel
  have hoverall : ¬ 2 ≤ (ofSelection (select {} 2 (mergeAll none 400 ledgerAndCart))).overall := by decide +kernel
  exact ⟨List.ne_nil_of_length_pos (by omega), hoverall⟩

end Modules

end Metrics

end Demarcation
