import Demarcation.Clustering
import Demarcation.Proofs.MergeRounds
import Demarcation.Proofs.Selection
import Demarcation.Proofs.ExactScalar
import Demarcation.Proofs.Pairs

/-!
Scores in an arithmetic in which a division by zero is noticed. Cohesion, merging, selection and metrics come to the same
as with rational numbers (`nameCohesion_checked`, `semanticCohesion_checked`, `mergeAll_checked`, `select_checked`,
`ofSelection_checked`), so no division by zero occurs in them.
-/

namespace Demarcation

inductive Checked where
  | of (x : Rat)
  | undefined

namespace Checked

def lift (f : Rat → Rat) : Checked → Checked
  | of x => of (f x)
  | undefined => undefined

def lift₂ (f : Rat → Rat → Rat) : Checked → Checked → Checked
  | of x, of y => of (f x y)
  | _, _ => undefined

def divide : Checked → Checked → Checked
  | of x, of y => if y = 0 then undefined else of (x / y)
  | _, _ => undefined

/-- Whatever is computed from what is undefined is undefined. A ratio is zero by itself if its divisor is. -/
instance : Scalar Checked where
  add := lift₂ (· + ·)
  sub := lift₂ (· - ·)
  mul := lift₂ (· * ·)
  div := divide
  default := of 0
  decimal m p := of (Scalar.decimal m p)
  ratio m n := if n = 0 then of 0 else divide (of m) (of n)
  lt
    | of x, of y => Scalar.lt x y
    | _, _ => false
  isZero
    | of x => Scalar.isZero x
    | undefined => false
  roundTo places := lift (Scalar.roundTo places)
  fixed places
    | of x => Scalar.fixed places x
    | undefined => ""
  ofNumeral n := of (Scalar.ofNumeral n)
  truncate
    | of x => Scalar.truncate x
    | undefined => .error .divisionByZero
  text
    | of x => Scalar.text x
    | undefined => ""

section Arithmetic

theorem of_div {x y : Rat} (h : y ≠ 0) : of x / of y = of (x / y) := if_neg h

theorem ratio_of (m n : Nat) : (Scalar.ratio m n : Checked) = of (Scalar.ratio m n) := by
  change (if n = 0 then of 0 else divide (of m) (of n)) = of ((m : Rat) / n)
  by_cases hn : n = 0
  · rw [if_pos hn, hn, Nat.cast_zero, div_zero]
  · rw [if_neg hn]
    exact of_div (Nat.cast_ne_zero.2 hn)

theorem min_of (x y : Rat) : Scalar.min (of x) (of y) = of (Scalar.min x y) := (apply_ite of _ _ _).symm

theorem max_of (x y : Rat) : Scalar.max (of x) (of y) = of (Scalar.max x y) := (apply_ite of _ _ _).symm

theorem clamp_of (x : Rat) : Scalar.clamp (of x) = of (Scalar.clamp x) := by
  have hmin : Scalar.min (Scalar.ofNat 1) (of x) = of (Scalar.min (Scalar.ofNat 1) x) := min_of _ _
  rw [Scalar.clamp, hmin]
  exact max_of _ _

theorem share_of (x : Rat) : Scalar.share (of x) = of (Scalar.share x) := by
  rw [Scalar.share, clamp_of]
  rfl

theorem sum_of (xs : List Rat) : Scalar.sum (xs.map of) = of (Scalar.sum xs) := by
  have hfold (y : Rat) : (xs.map of).foldl (· + ·) (of y) = of (xs.foldl (· + ·) y) := by
    induction xs generalizing y with
    | nil => rfl
    | cons x xs ih => exact ih (y + x)
  exact hfold _

theorem length_of {n : Nat} (hn : n ≠ 0) (x : Rat) : of x / Scalar.ofNat n = of (x / Scalar.ofNat n) := by
  have hdivisor : (Scalar.ofNat n : Rat) ≠ 0 := by
    rw [Scalar.ofNat_rat]
    exact Nat.cast_ne_zero.2 hn
  exact of_div hdivisor

theorem mean_of (xs : List Rat) : Scalar.mean (xs.map of) = of (Scalar.mean xs) := by
  cases xs with
  | nil => rfl
  | cons x xs =>
    have hsum := sum_of (x :: xs)
    rw [List.map_cons] at hsum
    rw [List.map_cons, Scalar.mean, Scalar.mean, hsum, List.isEmpty_cons, List.isEmpty_cons, if_neg Bool.false_ne_true,
      if_neg Bool.false_ne_true, List.length_cons, List.length_cons, List.length_map]
    exact length_of (Nat.succ_ne_zero _) _

theorem map_map_of {α β : Type} (f : α → β) {g : β → Checked} (x : α → Rat) (h : ∀ a, g (f a) = of (x a)) (l : List α) :
    (l.map f).map g = (l.map x).map of := by
  rw [List.map_map, List.map_map]
  exact List.map_congr_left fun a _ => h a

end Arithmetic

end Checked

open Checked

section Cohesion

variable {α : Type} [LT α] [DecidableLT α] [Ordered α] [DecidableEq α]

theorem jaccard_checked (s t : SortedSet α) : s.jaccard Checked t = of (s.jaccard Rat t) := ratio_of _ _

theorem wordSimilarity_checked (a b : String) : wordSimilarity Checked a b = of (wordSimilarity Rat a b) :=
  jaccard_checked _ _

theorem Text.lowerFrom_ne_nil (before : List Char) {cs : List Char} (h : cs ≠ []) : Text.lowerFrom before cs ≠ [] := by
  cases cs with
  | nil => exact absurd rfl h
  | cons c cs =>
    rw [Text.lowerFrom]
    apply List.append_ne_nil_of_left_ne_nil
    dsimp only
    split
    · split <;> exact List.cons_ne_nil _ _
    · split <;> exact List.cons_ne_nil _ _

/-- Two names with characters have lower-case forms with characters, so their lengths can be divided by. -/
theorem nameSimilarity_checked (a b : String) : nameSimilarity Checked a b = of (nameSimilarity Rat a b) := by
  unfold nameSimilarity
  by_cases h : (a.isEmpty || b.isEmpty) = true
  · rw [if_pos h, if_pos h]
    rfl
  · rw [if_neg h, if_neg h]
    refine length_of ?_ _
    have ha : a.toList ≠ [] := by
      intro hnil
      apply h
      rw [String.toList_eq_nil_iff.1 hnil]
      rfl
    have hlength := List.length_pos_iff.2 (Text.lowerFrom_ne_nil [] ha)
    omega

theorem affinity_checked (d e : Declaration) : affinity Checked d e = of (affinity Rat d e) := by
  unfold affinity
  rw [nameSimilarity_checked]
  split
  · rfl
  · exact (apply_ite of _ _ _).symm

theorem meanOverPairs_checked {measure : Declaration → Declaration → Checked} {exact : Declaration → Declaration → Rat}
    (h : ∀ d e, measure d e = of (exact d e)) (group : List Declaration) :
    meanOverPairs Checked measure group = of (meanOverPairs Rat exact group) := by
  unfold meanOverPairs
  dsimp only
  split
  · rfl
  · rw [← mean_of, List.map_map]
    simp only [h]
    rfl

theorem nameCohesion_checked (group : List Declaration) : nameCohesion Checked group = of (nameCohesion Rat group) :=
  meanOverPairs_checked (fun _ _ => wordSimilarity_checked _ _) group

theorem semanticCohesion_checked (group : List Declaration) :
    semanticCohesion Checked group = of (semanticCohesion Rat group) :=
  meanOverPairs_checked affinity_checked group

end Cohesion

namespace Candidate

def checked (c : Candidate Rat) : Candidate Checked where
  name := c.name
  members := c.members
  files := c.files
  accesses := c.accesses
  keywords := c.keywords
  cohesion := of c.cohesion
  externals := c.externals
  source := c.source
  declared := c.declared
  description := c.description

section Merging

def checkedScore (s : String × Rat) : String × Checked := (s.1, of s.2)

theorem addScore_checked (weight : Rat) (scores : List (String × Rat)) (keyword : String) :
    addScore (of weight) (scores.map checkedScore) keyword = (addScore weight scores keyword).map checkedScore := by
  induction scores with
  | nil => rfl
  | cons s scores ih =>
    by_cases hkey : (s.1 == keyword) = true
    · simp only [List.map_cons, addScore, checkedScore, if_pos hkey]
      rfl
    · simp only [List.map_cons, addScore, checkedScore, if_neg hkey]
      exact congrArg _ ih

theorem keywordScores_checked (group : List (Candidate Rat)) :
    keywordScores (group.map checked) = (keywordScores group).map checkedScore := by
  have hwords (weight : Rat) (words : List String) (scores : List (String × Rat)) :
      words.foldl (addScore (of weight)) (scores.map checkedScore) =
        (words.foldl (addScore weight) scores).map checkedScore := by
    induction words generalizing scores with
    | nil => rfl
    | cons word words ih => rw [List.foldl_cons, List.foldl_cons, addScore_checked, ih]
  have hgroup (scores : List (String × Rat)) :
      (group.map checked).foldl (fun scores c =>
          (c.keywords.toList.filter isMeaningful).foldl (addScore (Scalar.ofNat 1 + c.cohesion)) scores)
        (scores.map checkedScore) =
      (group.foldl (fun scores c =>
          (c.keywords.toList.filter isMeaningful).foldl (addScore (Scalar.ofNat 1 + c.cohesion)) scores)
        scores).map checkedScore := by
    induction group generalizing scores with
    | nil => rfl
    | cons c group ih =>
      have hscores := hwords (Scalar.ofNat 1 + c.cohesion) (c.keywords.toList.filter isMeaningful) scores
      rw [List.map_cons, List.foldl_cons, List.foldl_cons, ← ih, ← hscores]
      rfl
  exact hgroup []

theorem find?_declared_checked (group : List (Candidate Rat)) :
    (group.map checked).find? (·.declared) = (group.find? (·.declared)).map checked := List.find?_map ..

theorem mergedName_checked (first : Candidate Rat) (rest : List (Candidate Rat)) :
    mergedName first.checked (rest.map checked) = mergedName first rest := by
  rw [mergedName, mergedName, ← List.map_cons, find?_declared_checked, keywordScores_checked]
  cases (first :: rest).find? (·.declared) with
  | some c => rfl
  | none =>
    cases keywordScores (first :: rest) with
    | nil => rfl
    | cons best others =>
      have hbest : (others.map checkedScore).foldl (fun b c =>
          if Scalar.lt b.2 c.2 || (!Scalar.lt c.2 b.2 && decide (c.1 < b.1)) then c else b) (checkedScore best) =
          checkedScore (others.foldl (fun b c =>
            if Scalar.lt b.2 c.2 || (!Scalar.lt c.2 b.2 && decide (c.1 < b.1)) then c else b) best) := by
        induction others generalizing best with
        | nil => rfl
        | cons other others ih =>
          rw [List.map_cons, List.foldl_cons, List.foldl_cons, ← ih, apply_ite checkedScore]
          rfl
      exact congrArg Prod.fst hbest

theorem map_checked {α : Type} (f : Candidate Rat → α) (g : Candidate Checked → α) (h : ∀ c, g c.checked = f c)
    (group : List (Candidate Rat)) : (group.map checked).map g = group.map f := by
  rw [List.map_map]
  exact List.map_congr_left fun c _ => h c

theorem combine_checked (inv : Option Inventory) (first : Candidate Rat) (rest : List (Candidate Rat)) :
    (combine inv first rest).checked = combine inv first.checked (rest.map checked) := by
  cases rest with
  | nil => rfl
  | cons second rest =>
    have hmembers := map_checked (·.members) (·.members) (fun _ => rfl) (first :: second :: rest)
    have hexternals := map_checked (·.externals) (·.externals) (fun _ => rfl) (first :: second :: rest)
    have hdeclared := find?_declared_checked (first :: second :: rest)
    have hcohesion := map_map_of checked (g := (·.cohesion)) (·.cohesion) (fun _ => rfl) (first :: second :: rest)
    rw [List.map_cons] at hmembers hexternals hdeclared hcohesion
    change Candidate.mk _ _ _ _ _ _ _ _ _ _ = Candidate.mk _ _ _ _ _ _ _ _ _ _
    -- One goal for each field in turn. Only the name and the cohesion depend on numbers.
    congr 1
    · exact (mergedName_checked first (second :: rest)).symm
    · rw [hmembers]
      rfl
    · exact congrArg SortedSet.unions (map_checked (·.files) (·.files) (fun _ => rfl) (first :: second :: rest)).symm
    · exact congrArg SortedSet.unions (map_checked (·.accesses) (·.accesses) (fun _ => rfl) (first :: second :: rest)).symm
    · exact congrArg SortedSet.unions (map_checked (·.keywords) (·.keywords) (fun _ => rfl) (first :: second :: rest)).symm
    · rw [hcohesion, mean_of, clamp_of]
      rfl
    · rw [hmembers, hexternals]
      rfl
    · have hsources : ((first :: second :: rest).map checked).flatMap (fun c => (c.source.splitOn "+").filter (· ≠ "")) =
          (first :: second :: rest).flatMap fun c => (c.source.splitOn "+").filter (· ≠ "") := List.flatMap_map ..
      rw [List.map_cons] at hsources
      rw [hsources]
      rfl
    · rw [hdeclared, Option.isSome_map]
      rfl
    · rw [hdeclared, Option.map_map]
      rfl

theorem mergeOrder_checked (maxCandidates : Int) (candidates : List (Candidate Rat)) :
    mergeOrder maxCandidates (candidates.map checked) = (mergeOrder maxCandidates candidates).map checked := by
  have hworking : (candidates.map checked).filter (fun c => !c.members.isEmpty || !c.files.isEmpty) =
      (candidates.filter fun c => !c.members.isEmpty || !c.files.isEmpty).map checked := List.filter_map ..
  unfold mergeOrder
  dsimp only
  rw [hworking, List.length_map, apply_ite (List.map checked)]
  congr 1
  exact (List.map_mergeSort (f := checked) fun _ _ _ _ => rfl).symm

theorem mergeAll_checked (inv : Option Inventory) (maxCandidates : Int) (candidates : List (Candidate Rat)) :
    mergeAll inv maxCandidates (candidates.map checked) = (mergeAll inv maxCandidates candidates).map checked := by
  have hfeatures : (mergeFeatures inv).map (· ∘ checked) = mergeFeatures inv := by cases inv <;> rfl
  rw [mergeAll, mergeAll, mergeOrder_checked, List.length_map, mergeRounds_eq_sweepRounds, mergeRounds_eq_sweepRounds,
    Feature.sweepRounds_map checked (combine_checked inv), hfeatures]

end Merging

section Scoring

theorem sizeScore_checked (size : Int) : sizeScore Checked size = of (sizeScore Rat size) := by
  rw [sizeScore, sizeScore, apply_ite of, apply_ite of, apply_ite of]
  rfl

theorem databaseScore_checked (c : Candidate Rat) : c.checked.databaseScore = of c.databaseScore := by
  rw [databaseScore, databaseScore, apply_ite of, apply_ite of, apply_ite of]
  rfl

theorem isolationScore_checked (c : Candidate Rat) (others : List (Candidate Rat)) :
    c.checked.isolationScore (others.map checked) = of (c.isolationScore others) := by
  have hoverlaps : (others.map checked).map (fun d => c.checked.files.jaccard Checked d.files) =
      (others.map fun d => c.files.jaccard Rat d.files).map of :=
    map_map_of checked (fun d => c.files.jaccard Rat d.files) (fun _ => jaccard_checked _ _) others
  have hmax (o : Rat) (os : List Rat) : (os.map of).foldl Scalar.max (of o) = of (os.foldl Scalar.max o) := by
    induction os generalizing o with
    | nil => rfl
    | cons x os ih => rw [List.map_cons, List.foldl_cons, List.foldl_cons, max_of, ih]
  rw [isolationScore, isolationScore, hoverlaps]
  cases others.map fun d => c.files.jaccard Rat d.files with
  | nil => rfl
  | cons o os => exact congrArg (Scalar.ofNat 1 - ·) (hmax o os)

theorem score_checked (c : Candidate Rat) (others : List (Candidate Rat)) :
    c.checked.score (others.map checked) = of (c.score others) := by
  have hsize : sizeScore Checked c.checked.size = of (sizeScore Rat c.size) := sizeScore_checked c.size
  rw [score, score, hsize, databaseScore_checked, isolationScore_checked, ← clamp_of]
  rfl

end Scoring

section Selecting

def checkedScored (s : Scored Rat) : Scored Checked := (s.1.checked, of s.2)

theorem withOthers_map {α β : Type} (f : α → β) (before l : List α) :
    withOthers (before.map f) (l.map f) = (withOthers before l).map fun p => (f p.1, p.2.map f) := by
  induction l generalizing before with
  | nil => rfl
  | cons a l ih =>
    have hnext := ih (before ++ [a])
    rw [List.map_append] at hnext
    rw [List.map_cons, withOthers, withOthers, List.map_cons, ← hnext, List.map_append]
    rfl

theorem scored_checked (candidates : List (Candidate Rat)) :
    scored (candidates.map checked) = (scored candidates).map checkedScored := by
  have hothers := withOthers_map checked [] candidates
  rw [List.map_nil] at hothers
  rw [scored, scored, hothers, List.map_map, List.map_map]
  exact List.map_congr_left fun p _ => congrArg (Prod.mk _) (score_checked p.1 p.2)

theorem weigh_checked (threshold : Rat) (s : Scored Rat) :
    weigh (of threshold) (checkedScored s) = (weigh threshold s).map checkedScored := by
  unfold weigh
  rw [apply_ite (Option.map checkedScored), apply_ite (Option.map checkedScored)]
  rfl

theorem confident_checked (threshold : Rat) (candidates : List (Candidate Rat)) :
    confident (of threshold) (candidates.map checked) = (confident threshold candidates).map checkedScored := by
  rw [confident_eq_filterMap, confident_eq_filterMap, scored_checked, List.filterMap_map, List.map_filterMap]
  exact congrArg (List.filterMap · _) (funext fun s => weigh_checked threshold s)

theorem coveringOf_checked (kept : List (Scored Rat)) (c : Candidate Rat) :
    coveringOf (kept.map checkedScored) c.checked = (coveringOf kept c).map checked := by
  have hkept : (kept.map checkedScored).map (·.1) = (kept.map (·.1)).map checked := by
    rw [List.map_map, List.map_map]
    rfl
  rw [coveringOf, coveringOf, hkept, List.filter_map]
  rfl

theorem isUmbrella_checked (kept : List (Scored Rat)) (c : Candidate Rat) :
    isUmbrella (kept.map checkedScored) c.checked = isUmbrella kept c := by
  have hfiles := map_checked (·.files) (·.files) (fun _ => rfl) (coveringOf kept c)
  rw [isUmbrella, isUmbrella, coveringOf_checked, hfiles, List.length_map]
  rfl

theorem dropUmbrellas_checked (scored : List (Scored Rat)) :
    dropUmbrellas (scored.map checkedScored) = (dropUmbrellas scored).map checkedScored := by
  have hfold (l kept : List (Scored Rat)) :
      (l.map checkedScored).foldl (fun kept s => if isUmbrella kept s.1 then kept else kept ++ [s])
        (kept.map checkedScored) =
      (l.foldl (fun kept s => if isUmbrella kept s.1 then kept else kept ++ [s]) kept).map checkedScored := by
    induction l generalizing kept with
    | nil => rfl
    | cons s l ih =>
      have humbrella : isUmbrella (kept.map checkedScored) (checkedScored s).1 = isUmbrella kept s.1 :=
        isUmbrella_checked kept s.1
      rw [List.map_cons, List.foldl_cons, List.foldl_cons, ← ih, apply_ite (List.map checkedScored), List.map_append,
        humbrella]
      rfl
  have hsort : (scored.map checkedScored).mergeSort (fun a b => a.1.files.size ≤ b.1.files.size) =
      (scored.mergeSort fun a b => a.1.files.size ≤ b.1.files.size).map checkedScored :=
    (List.map_mergeSort (f := checkedScored) fun _ _ _ _ => rfl).symm
  rw [dropUmbrellas, dropUmbrellas, hsort]
  exact hfold _ []

end Selecting

end Candidate

def Boundary.checked (b : Boundary Rat) : Boundary Checked where
  name := b.name
  description := b.description
  confidence := of b.confidence
  files := b.files
  structs := b.structs
  interfaces := b.interfaces
  functions := b.functions
  tables := b.tables
  reasoning := b.reasoning
  keywords := b.keywords
  dependencies := b.dependencies
  declared := b.declared

def checkedPair (p : Candidate Rat × Boundary Rat) : Candidate Checked × Boundary Checked := (p.1.checked, p.2.checked)

theorem Candidate.toBoundary_checked (c : Candidate Rat) (inv : Inventory) (confidence : Rat) :
    c.checked.toBoundary inv (of confidence) = (c.toBoundary inv confidence).checked := by
  unfold toBoundary
  rw [share_of]
  rfl

theorem Candidate.select_checked (inv : Inventory) (threshold : Rat) (candidates : List (Candidate Rat)) :
    select inv (of threshold) (candidates.map checked) = (select inv threshold candidates).map checkedPair := by
  have hpairs : ((dropUmbrellas (confident threshold candidates)).map checkedScored).map
        (fun s => (s.1, s.1.toBoundary inv s.2)) =
      ((dropUmbrellas (confident threshold candidates)).map fun s => (s.1, s.1.toBoundary inv s.2)).map checkedPair := by
    rw [List.map_map, List.map_map]
    exact List.map_congr_left fun s _ => congrArg (Prod.mk _) (toBoundary_checked s.1 inv s.2)
  unfold select
  dsimp only
  rw [confident_checked, dropUmbrellas_checked, hpairs]
  exact (List.map_mergeSort (f := checkedPair) fun _ _ _ _ => rfl).symm

namespace Metrics

def checked (m : Metrics Rat) : Metrics Checked :=
  ⟨of m.overall, of m.semantic, of m.structural, of m.clarity, of m.database⟩

theorem quality_checked (m : Metrics Rat) : m.checked.quality = of m.quality :=
  mean_of [m.semantic, m.structural, m.clarity, m.database]

theorem map_jaccard_checked (boundaries : List (Boundary Rat)) :
    (orderedPairs (boundaries.map Boundary.checked)).map
        (fun p => (SortedSet.ofList p.1.files).jaccard Checked (SortedSet.ofList p.2.files)) =
      ((orderedPairs boundaries).map
        fun p => (SortedSet.ofList p.1.files).jaccard Rat (SortedSet.ofList p.2.files)).map of := by
  rw [orderedPairs_map, List.map_map, List.map_map]
  exact List.map_congr_left fun p _ => jaccard_checked _ _

theorem length_filter_checked (p : List String → Bool) (boundaries : List (Boundary Rat)) :
    ((boundaries.map Boundary.checked).filter fun b => p b.files).length =
      (boundaries.filter fun b => p b.files).length := by
  rw [List.filter_map, List.length_map]
  rfl

theorem measured_checked {pairs : List (Candidate Rat × Boundary Rat)} (h : pairs ≠ []) :
    measured (pairs.map checkedPair) = (measured pairs).checked := by
  have hboundaries : (pairs.map checkedPair).map (·.2) = (pairs.map (·.2)).map Boundary.checked := by
    rw [List.map_map, List.map_map]
    rfl
  have hoverall : ((pairs.map (·.2)).map Boundary.checked).map (·.confidence) =
      ((pairs.map (·.2)).map (·.confidence)).map of := map_map_of Boundary.checked (·.confidence) (fun _ => rfl) _
  have hsemantic : (pairs.map checkedPair).map (·.1.cohesion) = (pairs.map (·.1.cohesion)).map of :=
    map_map_of checkedPair (·.1.cohesion) (fun _ => rfl) pairs
  have hdatabase : (pairs.map checkedPair).map (·.1.databaseScore) = (pairs.map (·.1.databaseScore)).map of :=
    map_map_of checkedPair (·.1.databaseScore) (fun p => Candidate.databaseScore_checked p.1) pairs
  have hsingle := length_filter_checked (fun files => (SortedSet.ofList (files.map Text.parentPath)).size == 1)
    (pairs.map (·.2))
  have hstructural (n : Nat) : (Scalar.ofNat n / Scalar.ofNat pairs.length : Checked) =
      of (Scalar.ofNat n / Scalar.ofNat pairs.length) := length_of (mt List.length_eq_zero_iff.1 h) _
  simp only [measured, hboundaries, hoverall, hsemantic, hdatabase, hsingle, map_jaccard_checked, mean_of, List.length_map]
  rw [hstructural]
  rfl

theorem ofSelection_checked (pairs : List (Candidate Rat × Boundary Rat)) :
    ofSelection (pairs.map checkedPair) = (ofSelection pairs).checked := by
  cases pairs with
  | nil => rfl
  | cons p pairs =>
    have hmeasured := measured_checked (List.cons_ne_nil p pairs)
    rw [ofSelection, ofSelection, hmeasured, List.map_cons, List.isEmpty_cons, List.isEmpty_cons, if_neg Bool.false_ne_true,
      if_neg Bool.false_ne_true]
    simp only [map, checked, share_of]

end Metrics

end Demarcation
