import Mathlib.Data.List.Basic
import Demarcation.Proofs.QueuedScan
import Demarcation.Proofs.Sweep
import Demarcation.Merge

namespace Demarcation

namespace Feature

variable {features : Array Feature}

def featureAt (features : Array Feature) (i : Nat) : Feature := features[i]?.getD ⟨none, ∅⟩

theorem joins_area {area : String} {names : SortedSet String} {f : Feature} :
    joins ⟨some area, names⟩ f = true ↔ f.area = some area ∧ names.overlapsHalf f.names = true := by
  simp only [joins_iff, Option.some.injEq, exists_eq_left']

theorem not_joins_of_area_none {f g : Feature} (h : f.area = none) : f.joins g = false := by
  simp only [joins, h, Option.isSome_none, Bool.false_and]

theorem plainScan_eq_sift {area : String} {taken : List Nat} (names : SortedSet String) (js : List Nat) :
    plainScan features area taken names js =
      (sift (featureAt features) ⟨some area, names⟩ (js.filter (· ∉ taken))).1 := by
  induction js generalizing names with
  | nil => rfl
  | cons j js ih =>
    by_cases ht : j ∈ taken
    · rw [List.filter_cons_of_neg (by simpa using ht), ← ih, plainScan]
      split
      · rfl
      · rw [if_neg (fun h => h.1 ht)]
    · rw [List.filter_cons_of_pos (by simpa using ht), plainScan]
      cases hf : features[j]? with
      | none =>
        have hj : joins ⟨some area, names⟩ (featureAt features j) = false := by
          rw [Bool.eq_false_iff, Ne, joins_area, featureAt, hf]
          rintro ⟨h, -⟩
          cases h
        rw [sift_cons_of_not_joins _ _ hj, ih]
      | some f =>
        have hat : featureAt features j = f := by rw [featureAt, hf, Option.getD_some]
        simp only [ht, not_false_eq_true, true_and, ← joins_area, ← hat]
        by_cases hj : joins ⟨some area, names⟩ (featureAt features j) = true
        · rw [if_pos hj, sift_cons_of_joins _ _ hj, ih]
          rfl
        · rw [if_neg hj, sift_cons_of_not_joins _ _ (Bool.eq_false_iff.2 hj), ih]

theorem plainAbsorbedBy_eq_sift (seed : Nat) (taken : List Nat) :
    plainAbsorbedBy features seed taken =
      (sift (featureAt features) (featureAt features seed)
        ((List.range' (seed + 1) (features.size - (seed + 1))).filter (· ∉ taken))).1 := by
  have hnone (f : Feature) (h : f.area = none) (l : List Nat) : (sift (featureAt features) f l).1 = [] := by
    rw [sift_eq_of_forall_not_joins fun _ _ => not_joins_of_area_none h]
  rw [plainAbsorbedBy]
  cases hf : features[seed]? with
  | none =>
    have hat : (featureAt features seed).area = none := by rw [featureAt, hf, Option.getD_none]
    exact (hnone _ hat _).symm
  | some f =>
    have hat : featureAt features seed = f := by rw [featureAt, hf, Option.getD_some]
    rw [hat]
    cases ha : f.area with
    | none => simp only [ha, hnone f ha]
    | some area =>
      simp only [ha]
      rw [plainScan_eq_sift, ← ha]

theorem sift_snd_eq_filter {α : Type} [DecidableEq α] {feature : α → Feature} (group : Feature) {l : List α}
    (hl : l.Nodup) : (sift feature group l).2 = l.filter (· ∉ (sift feature group l).1) := by
  induction l generalizing group with
  | nil => rfl
  | cons a as ih =>
    obtain ⟨ha, has⟩ := List.nodup_cons.1 hl
    cases hj : group.joins (feature a) with
    | true =>
      rw [sift_cons_of_joins feature as hj, List.filter_cons_of_neg (by simp), ih _ has]
      apply List.filter_congr
      intro b hb
      have hne : b ≠ a := fun h => ha (h ▸ hb)
      simp only [List.mem_cons, hne, false_or]
    | false =>
      have hn : a ∉ (sift feature group as).1 := fun h => ha ((sift_fst_sublist feature group as).subset h)
      rw [sift_cons_of_not_joins feature as hj, List.filter_cons_of_pos (by simpa using hn), ← ih group has]

theorem groupsFrom_eq_sweep (m : Nat) {k : Nat} (hk : k + m = features.size) (taken : List Nat) :
    groupsFrom (plainAbsorbedBy features) (List.range' k m) taken =
      (sweep (featureAt features) ((List.range' k m).filter (· ∉ taken))).map fun g => g.1 :: g.2 := by
  induction m generalizing k taken with
  | zero => rw [List.range'_zero, List.filter_nil, sweep_nil, List.map_nil, groupsFrom]
  | succ m ih =>
    have hrest : features.size - (k + 1) = m := by omega
    rw [List.range'_succ, groupsFrom]
    by_cases ht : k ∈ taken
    · rw [if_pos ht, List.filter_cons_of_neg (by simpa using ht), ih (by omega)]
    · have hnodup : ((List.range' (k + 1) m).filter (· ∉ taken)).Nodup := (List.nodup_range' ..).filter _
      rw [if_neg ht, List.filter_cons_of_pos (by simpa using ht), sweep_cons, List.map_cons,
        sift_snd_eq_filter _ hnodup, List.filter_filter]
      simp only [plainAbsorbedBy_eq_sift, hrest]
      rw [ih (by omega)]
      simp only [List.mem_append, not_or, Bool.decide_and, Bool.and_comm]

theorem plainGroups_eq_sweep (features : Array Feature) :
    plainGroups features =
      (sweep (featureAt features) (List.range features.size)).map fun g => g.1 :: g.2 := by
  rw [plainGroups, List.range_eq_range', groupsFrom_eq_sweep features.size (Nat.zero_add _),
    List.filter_eq_self.2 (by simp)]

end Feature

namespace Candidate

open Feature

variable {R : Type}

theorem fileFeature_joins {files : SortedSet String} {c : Candidate R} :
    joins ⟨some "", files⟩ c.fileFeature = true ↔ (files ∪ c.files).size < 2 * (files ∩ c.files).size := by
  rw [joins_area, SortedSet.overlapsHalf_iff]
  exact and_iff_right rfl

/-- One scan of later candidates by a group with some files, which grow with each candidate that the group absorbs: the
absorbed candidates and those that are left. -/
def scanByFiles (files : SortedSet String) : List (Candidate R) → List (Candidate R) × List (Candidate R)
  | [] => ([], [])
  | c :: cs =>
    if (files ∪ c.files).size < 2 * (files ∩ c.files).size then
      let rest := scanByFiles (files ∪ c.files) cs
      (c :: rest.1, rest.2)
    else
      let rest := scanByFiles files cs
      (rest.1, c :: rest.2)

theorem scanByFiles_eq_sift (files : SortedSet String) (candidates : List (Candidate R)) :
    scanByFiles files candidates = sift fileFeature ⟨some "", files⟩ candidates := by
  induction candidates generalizing files with
  | nil => rfl
  | cons c cs ih =>
    by_cases h : (files ∪ c.files).size < 2 * (files ∩ c.files).size
    · rw [sift_cons_of_joins fileFeature cs (fileFeature_joins.2 h), scanByFiles, if_pos h, ih]
      rfl
    · have hj := Bool.eq_false_iff.2 (mt fileFeature_joins.1 h)
      rw [sift_cons_of_not_joins fileFeature cs hj, scanByFiles, if_neg h, ih]

variable [Scalar R]

theorem combine_nil (inv : Option Inventory) (c : Candidate R) : combine inv c [] = c := rfl

theorem combineAt?_cons (inv : Option Inventory) (candidates : List (Candidate R)) (i : Nat) (is : List Nat)
    (h : ∀ j ∈ i :: is, j < candidates.length) :
    combineAt? inv candidates.toArray (i :: is) =
      some (combine inv candidates[i]! (is.map (candidates[·]!))) := by
  have hget : ∀ j ∈ i :: is, candidates.toArray[j]? = some candidates[j]! := by
    intro j hj
    rw [List.getElem?_toArray, List.getElem?_eq_getElem (h j hj), getElem!_pos candidates j (h j hj)]
  have hall : (i :: is).filterMap (candidates.toArray[·]?) = (i :: is).map (candidates[·]!) := by
    rw [← List.filterMap_eq_map]
    exact List.filterMap_congr hget
  rw [combineAt?, hall, List.map_cons]

theorem map_getElem!_range (candidates : List (Candidate R)) :
    (List.range candidates.length).map (candidates[·]!) = candidates := by
  apply List.ext_getElem
  · rw [List.length_map, List.length_range]
  · intro i _ hi
    rw [List.getElem_map, List.getElem_range, getElem!_pos candidates i hi]

theorem groups_map_feature (feature : Candidate R → Feature) (candidates : List (Candidate R)) :
    groups (candidates.map feature).toArray =
      (sweep (feature ∘ (candidates[·]!)) (List.range candidates.length)).map fun g => g.1 :: g.2 := by
  rw [groups_eq_plainGroups, plainGroups_eq_sweep, List.size_toArray, List.length_map]
  congr 1
  apply sweep_congr
  intro i hi
  have hlt := List.mem_range.1 hi
  simp only [featureAt, List.getElem?_toArray, List.getElem?_map, List.getElem?_eq_getElem hlt, Option.map_some,
    Option.getD_some, Function.comp_apply, getElem!_pos candidates i hlt]

theorem mergeGroups_groups (inv : Option Inventory) (feature : Candidate R → Feature)
    (candidates : List (Candidate R)) :
    mergeGroups inv groups feature candidates = sweepWith feature (combine inv) candidates := by
  have hvalid : ∀ g ∈ sweep (feature ∘ (candidates[·]!)) (List.range candidates.length),
      combineAt? inv candidates.toArray (g.1 :: g.2) =
        some (combine inv candidates[g.1]! (g.2.map (candidates[·]!))) := by
    intro g hg
    apply combineAt?_cons
    intro j hj
    exact List.mem_range.1 (mem_of_mem_sweep hg j hj)
  conv_rhs => rw [← map_getElem!_range candidates]
  simp only [mergeGroups, groups_map_feature, sweepWith, sweep_map, List.filterMap_map, List.any_map, List.map_map,
    Function.comp_def, Prod.map_fst, Prod.map_snd, List.isEmpty_map, List.length_cons,
    Prod.mk.injEq]
  constructor
  · rw [← List.filterMap_eq_map]
    exact List.filterMap_congr hvalid
  · congr 1
    funext g
    cases g.2 <;> simp

theorem overlapPass_eq_sweepWith (inv : Option Inventory) (candidates : List (Candidate R)) :
    overlapPass inv candidates = sweepWith fileFeature (combine inv) candidates :=
  mergeGroups_groups inv fileFeature candidates

theorem couplingPass_eq_sweepWith (inv : Inventory) (candidates : List (Candidate R)) :
    couplingPass inv candidates = sweepWith (usageFeature inv) (combine (some inv)) candidates :=
  mergeGroups_groups (some inv) (usageFeature inv) candidates

/-- The plain pass: the first candidate scans all later ones and is combined with those it absorbs, and so does the first
of those that are left. Also tells whether anything was absorbed. -/
def quadraticPass (inv : Option Inventory) : List (Candidate R) → List (Candidate R) × Bool
  | [] => ([], false)
  | c :: cs =>
    let scanned := scanByFiles c.files cs
    let rest := quadraticPass inv scanned.2
    (combine inv c scanned.1 :: rest.1, !scanned.1.isEmpty || rest.2)
termination_by cs => cs.length
decreasing_by
  rw [scanByFiles_eq_sift]
  exact Nat.lt_succ_of_le (sift_snd_sublist _ _ _).length_le

theorem overlapPass_eq_quadraticPass (inv : Option Inventory) (candidates : List (Candidate R)) :
    overlapPass inv candidates = quadraticPass inv candidates := by
  rw [overlapPass_eq_sweepWith]
  fun_induction quadraticPass inv candidates with
  | case1 => rw [sweepWith, sweep_nil]; rfl
  | case2 c cs scanned rest ih =>
    have hscan : scanned = sift fileFeature c.fileFeature cs := scanByFiles_eq_sift c.files cs
    rw [sweepWith, sweep_cons, ← hscan]
    refine Prod.ext ?_ ?_
    · exact congrArg (combine inv c scanned.1 :: ·) (congrArg Prod.fst ih)
    · exact congrArg (!scanned.1.isEmpty || ·) (congrArg Prod.snd ih)

end Candidate

end Demarcation
