import Mathlib.Data.Prod.Lex
import Mathlib.Data.String.Basic
import Demarcation.Proofs.FloatOrder
import Demarcation.Proofs.Selection
import Demarcation.Proofs.UsageOverlap

namespace Demarcation

open LawfulScalar

variable {R : Type}

namespace Candidate

section Merged

theorem fileFeature_joins_of_files_eq {c d : Candidate R} (h : c.files = d.files) (hne : c.files.isEmpty = false) :
    c.fileFeature.joins d.fileFeature = true := by
  have hpos : 0 < c.files.size := List.length_pos_iff.2 (List.isEmpty_eq_false_iff.1 hne)
  have hunion : c.files ∪ d.files = c.files := by
    apply SortedSet.ext
    intro f
    rw [SortedSet.mem_union, ← h, or_self]
  have hinter : c.files ∩ d.files = c.files := by
    apply SortedSet.ext
    intro f
    rw [SortedSet.mem_inter, ← h, and_self]
  apply fileFeature_joins.2
  rw [hunion, hinter]
  omega

variable [Scalar R]

theorem mergeAll_files_nodup (inv : Option Inventory) (maxCandidates : Int) (candidates : List (Candidate R)) :
    (((mergeAll inv maxCandidates candidates).filter (!·.files.isEmpty)).map (·.files)).Nodup := by
  have hapart := (mergeAll_pairwise_not_joins (fileFeature_mem_mergeFeatures inv) maxCandidates candidates).filter
    fun c => !c.files.isEmpty
  rw [List.Nodup, List.pairwise_map]
  refine hapart.imp_of_mem ?_
  intro c d hc _ hjoins heq
  have hne : c.files.isEmpty = false := by simpa using (List.mem_filter.1 hc).2
  exact Bool.eq_false_iff.1 hjoins (fileFeature_joins_of_files_eq heq hne)

end Merged

end Candidate

variable [Scalar R] [LawfulScalar R]

namespace Scalar

theorem max_spec {x y : R} (hx : IsNumber x) (hy : IsNumber y) :
    (Scalar.max x y = x ∨ Scalar.max x y = y) ∧ place x ≤ place (Scalar.max x y) ∧ place y ≤ place (Scalar.max x y) := by
  by_cases h : Scalar.lt x y = true
  · rw [Scalar.max, if_pos h]
    exact ⟨Or.inr rfl, (lt_iff.1 h).2.2.le, le_refl _⟩
  · rw [Scalar.max, if_neg h]
    refine ⟨Or.inl rfl, le_refl _, not_lt.1 ?_⟩
    intro hlt
    exact h (lt_iff.2 ⟨hx, hy, hlt⟩)

theorem foldl_max_spec {x : R} {xs : List R} (h : ∀ y ∈ x :: xs, IsNumber y) :
    xs.foldl Scalar.max x ∈ x :: xs ∧ ∀ y ∈ x :: xs, place y ≤ place (xs.foldl Scalar.max x) := by
  induction xs generalizing x with
  | nil =>
    refine ⟨List.mem_cons_self, ?_⟩
    intro y hy
    rw [List.mem_singleton.1 hy, List.foldl_nil]
  | cons z zs ih =>
    obtain ⟨hx, h⟩ := List.forall_mem_cons.1 h
    obtain ⟨hz, hzs⟩ := List.forall_mem_cons.1 h
    obtain ⟨hmax, hxm, hzm⟩ := max_spec hx hz
    have hnum : ∀ y ∈ Scalar.max x z :: zs, IsNumber y := by
      refine List.forall_mem_cons.2 ⟨?_, hzs⟩
      rcases hmax with hmax | hmax
      · rwa [hmax]
      · rwa [hmax]
    obtain ⟨hmem, habove⟩ := ih hnum
    rw [List.foldl_cons]
    refine ⟨?_, ?_⟩
    · rcases List.mem_cons.1 hmem with heq | hmem
      · rw [heq]
        rcases hmax with hmax | hmax
        · rw [hmax]
          exact List.mem_cons_self
        · rw [hmax]
          exact List.mem_cons_of_mem _ List.mem_cons_self
      · exact List.mem_cons_of_mem _ (List.mem_cons_of_mem _ hmem)
    · have hfirst := habove _ List.mem_cons_self
      refine List.forall_mem_cons.2 ⟨hxm.trans hfirst, List.forall_mem_cons.2 ⟨hzm.trans hfirst, ?_⟩⟩
      exact fun y hy => habove y (List.mem_cons_of_mem _ hy)

theorem foldl_max_perm {x y : R} {xs ys : List R} (hratio : ∀ z ∈ x :: xs, ∃ m n, z = Scalar.ratio m n)
    (h : (x :: xs).Perm (y :: ys)) : xs.foldl Scalar.max x = ys.foldl Scalar.max y := by
  have hratio' : ∀ z ∈ y :: ys, ∃ m n, z = Scalar.ratio m n := fun z hz => hratio z (h.mem_iff.2 hz)
  have hnumber {l : List R} (hl : ∀ z ∈ l, ∃ m n, z = Scalar.ratio m n) : ∀ z ∈ l, IsNumber z := by
    intro z hz
    obtain ⟨m, n, rfl⟩ := hl z hz
    exact isNumber_ratio m n
  obtain ⟨hmem, habove⟩ := foldl_max_spec (hnumber hratio)
  obtain ⟨hmem', habove'⟩ := foldl_max_spec (hnumber hratio')
  have hplace := le_antisymm (habove' _ (h.mem_iff.1 hmem)) (habove _ (h.mem_iff.2 hmem'))
  obtain ⟨m, n, hmn⟩ := hratio _ hmem
  obtain ⟨m', n', hmn'⟩ := hratio' _ hmem'
  rw [hmn, hmn'] at hplace ⊢
  exact ratio_eq_of_place_eq hplace

end Scalar

namespace Candidate

variable {others others' candidates candidates' : List (Candidate R)}

section Scores

theorem isolationScore_perm (c : Candidate R) (h : others.Perm others') :
    c.isolationScore others = c.isolationScore others' := by
  have hmap := h.map fun d => c.files.jaccard R d.files
  have hratio : ∀ z ∈ others.map fun d => c.files.jaccard R d.files, ∃ m n, z = Scalar.ratio m n := by
    intro z hz
    obtain ⟨d, -, rfl⟩ := List.mem_map.1 hz
    exact ⟨_, _, rfl⟩
  rw [isolationScore, isolationScore]
  generalize (others.map fun d => c.files.jaccard R d.files) = overlaps at hmap hratio
  generalize (others'.map fun d => c.files.jaccard R d.files) = overlaps' at hmap
  cases overlaps with
  | nil => rw [hmap.nil_eq]
  | cons x xs =>
    cases overlaps' with
    | nil => exact absurd hmap.eq_nil (List.cons_ne_nil _ _)
    | cons y ys =>
      change Scalar.ofNat 1 - xs.foldl Scalar.max x = Scalar.ofNat 1 - ys.foldl Scalar.max y
      rw [Scalar.foldl_max_perm hratio hmap]

theorem score_perm (c : Candidate R) (h : others.Perm others') : c.score others = c.score others' := by
  rw [score, score, isolationScore_perm c h]

end Scores

section Others

variable {α β : Type} {f : α → List α → β}

theorem map_withOthers_congr (hf : ∀ a {as as' : List α}, as.Perm as' → f a as = f a as') {before before' : List α}
    (h : before.Perm before') (l : List α) :
    (withOthers before l).map (fun p => f p.1 p.2) = (withOthers before' l).map fun p => f p.1 p.2 := by
  induction l generalizing before before' with
  | nil => rfl
  | cons a l ih =>
    rw [withOthers, withOthers, List.map_cons, List.map_cons, hf a (h.append_right l), ih (h.append_right [a])]

theorem map_withOthers_perm (hf : ∀ a {as as' : List α}, as.Perm as' → f a as = f a as') {l l' : List α}
    (h : l.Perm l') (before : List α) :
    ((withOthers before l).map fun p => f p.1 p.2).Perm ((withOthers before l').map fun p => f p.1 p.2) := by
  induction h generalizing before with
  | nil => exact List.Perm.refl _
  | cons a h ih =>
    rw [withOthers, withOthers, List.map_cons, List.map_cons, hf a (h.append_left before)]
    exact (ih (before ++ [a])).cons _
  | swap a b l =>
    simp only [withOthers, List.map_cons]
    have ha : (before ++ [b] ++ l).Perm (before ++ b :: l) := by
      rw [List.append_assoc, List.singleton_append]
    have hb : (before ++ a :: l).Perm (before ++ [a] ++ l) := by
      rw [List.append_assoc, List.singleton_append]
    have htail : (before ++ [b] ++ [a]).Perm (before ++ [a] ++ [b]) := by
      rw [List.append_assoc, List.append_assoc]
      exact (List.Perm.swap a b []).append_left before
    rw [hf a ha, hf b hb, map_withOthers_congr hf htail l]
    exact List.Perm.swap _ _ _
  | trans _ _ ih₁ ih₂ => exact (ih₁ before).trans (ih₂ before)

end Others

section Ranking

variable {inv : Inventory} {threshold : R}

theorem scored_perm (h : candidates.Perm candidates') : (scored candidates).Perm (scored candidates') := by
  have hscore : ∀ (c : Candidate R) {as as' : List (Candidate R)}, as.Perm as' → (c, c.score as) = (c, c.score as') := by
    intro c as as' has
    rw [score_perm c has]
  exact map_withOthers_perm hscore h []

theorem confident_perm (threshold : R) (h : candidates.Perm candidates') :
    (confident threshold candidates).Perm (confident threshold candidates') := by
  rw [confident_eq_filterMap, confident_eq_filterMap]
  exact (scored_perm h).filterMap _

theorem chosen_perm (inv : Inventory) (threshold : R) (h : candidates.Perm candidates') :
    (chosen inv threshold candidates).Perm (chosen inv threshold candidates') :=
  (dropUmbrellas_perm (confident_perm threshold h)).map _

def rankKey (b : Boundary R) : (Place R)ᵒᵈ ×ₗ String ×ₗ List String :=
  toLex (OrderDual.toDual (place b.confidence), toLex (b.name, b.files))

theorem ranksBefore_iff {a b : Boundary R} (ha : IsNumber a.confidence) (hb : IsNumber b.confidence) :
    ranksBefore a b = true ↔ rankKey a < rankKey b := by
  have hab : Scalar.lt a.confidence b.confidence = true ↔ place a.confidence < place b.confidence := by
    rw [lt_iff, and_iff_right ha, and_iff_right hb]
  have hba : Scalar.lt b.confidence a.confidence = true ↔ place b.confidence < place a.confidence := by
    rw [lt_iff, and_iff_right ha, and_iff_right hb]
  rw [ranksBefore, rankKey, rankKey, Prod.Lex.toLex_lt_toLex, Prod.Lex.toLex_lt_toLex, OrderDual.toDual_lt_toDual,
    OrderDual.toDual_inj]
  simp only [hab, hba]
  rcases lt_trichotomy (place a.confidence) (place b.confidence) with h | h | h
  · simp [h, h.not_gt, h.ne]
  · by_cases hname : a.name = b.name
    · simp [h, hname]
    · simp [h, hname]
  · simp [h]

theorem rankKey_injective {a b : Boundary R} (h : rankKey a = rankKey b) : a.files = b.files :=
  congrArg (fun k => (ofLex (ofLex k).2).2) h

theorem isNumber_confidence {p : Candidate R × Boundary R} (h : p ∈ chosen inv threshold candidates) :
    IsNumber p.2.confidence := by
  obtain ⟨s, -, rfl⟩ := List.mem_map.1 h
  exact isNumber_share s.2

theorem select_eq_sorted (inv : Inventory) (threshold : R) (candidates : List (Candidate R)) :
    select inv threshold candidates =
      (chosen inv threshold candidates).mergeSort fun p q => rankKey p.2 ≤ rankKey q.2 := by
  apply mergeSort_congr
  intro p hp q hq
  rw [Bool.eq_iff_iff, Bool.not_eq_true', ← Bool.not_eq_true,
    ranksBefore_iff (isNumber_confidence hq) (isNumber_confidence hp), not_lt, decide_eq_true_eq]

theorem select_perm (inv : Inventory) (threshold : R) (h : candidates.Perm candidates')
    (hapart : (candidates.map (·.files)).Nodup) :
    select inv threshold candidates = select inv threshold candidates' := by
  rw [select_eq_sorted, select_eq_sorted]
  apply mergeSort_eq_of_perm (chosen_perm inv threshold h)
  intro p hp q hq hkey
  -- What the ranking cannot tell apart has the same files.
  have hfiles := rankKey_injective hkey
  rw [files_of_mem_chosen hp, files_of_mem_chosen hq] at hfiles
  apply eq_of_files_eq hapart hp hq
  apply SortedSet.ext
  intro f
  rw [SortedSet.mem_def, SortedSet.mem_def, hfiles]

end Ranking

/-- Scores, umbrellas and ranked boundaries are the same for every order of candidates with different files. Merged
candidates that have files have different ones. -/
theorem select_order_independent (inv : Inventory) (threshold : R) :
    (∀ candidates candidates' : List (Candidate R), candidates.Perm candidates' → (candidates.map (·.files)).Nodup →
      (scored candidates).Perm (scored candidates') ∧
        (dropUmbrellas (confident threshold candidates)).Perm (dropUmbrellas (confident threshold candidates')) ∧
          select inv threshold candidates = select inv threshold candidates') ∧
      ∀ (merging : Option Inventory) (maxCandidates : Int) (candidates : List (Candidate R)),
        (((mergeAll merging maxCandidates candidates).filter (!·.files.isEmpty)).map (·.files)).Nodup := by
  refine ⟨?_, mergeAll_files_nodup⟩
  intro candidates candidates' h hapart
  exact ⟨scored_perm h, dropUmbrellas_perm (confident_perm threshold h), select_perm inv threshold h hapart⟩

def shopOverCartAndOrder : List (Candidate Float) := [
  { name := "shop", files := SortedSet.ofList ["cart/a.go", "order/b.go"], cohesion := Scalar.decimal 9 1 },
  { name := "cart", files := SortedSet.ofList ["cart/a.go"], cohesion := Scalar.decimal 5 1 },
  { name := "order", files := SortedSet.ofList ["order/b.go"], cohesion := Scalar.decimal 5 1 }]

theorem select_order_independent_shop :
    shopOverCartAndOrder.Perm shopOverCartAndOrder.reverse ∧ (shopOverCartAndOrder.map (·.files)).Nodup ∧
      select {} (Scalar.decimal 3 1) shopOverCartAndOrder = select {} (Scalar.decimal 3 1) shopOverCartAndOrder.reverse := by
  have hperm : shopOverCartAndOrder.Perm shopOverCartAndOrder.reverse := (List.reverse_perm _).symm
  have hapart : (shopOverCartAndOrder.map (·.files)).Nodup := by decide +kernel
  exact ⟨hperm, hapart, ((select_order_independent {} (Scalar.decimal 3 1)).1 _ _ hperm hapart).2.2⟩

end Candidate

end Demarcation
