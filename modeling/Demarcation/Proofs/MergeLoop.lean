import Demarcation.Proofs.MergedGroups
import Demarcation.Proofs.Search
import Demarcation.Proofs.UsageOverlap

/-!
How long the merger runs. Every round but the last leaves fewer candidates, so there are no more rounds than candidates,
and every search within a pass comes to an end (`mergeAll_rounds_le`). What the merger returns is a list in which no two
candidates are joined by any pass, in whatever order they stand. So merging again changes nothing, except that too many
candidates are put in order (`mergeAll_mergeAll`).
-/

namespace Demarcation

open Feature

namespace Candidate

variable {R : Type} [Scalar R] {inv : Option Inventory} {maxCandidates : Int} {candidates : List (Candidate R)}

section Rounds

/-- The loop of the merger, with the number of its rounds: it goes on after a round that changed something, and no other
end is put to it. -/
inductive Repeats (inv : Option Inventory) : Nat → List (Candidate R) → List (Candidate R) → Prop
  | last {working : List (Candidate R)} (h : (mergeRound inv working).2 = false) :
      Repeats inv 1 working (mergeRound inv working).1
  | again {rounds : Nat} {working merged : List (Candidate R)} (h : (mergeRound inv working).2 = true)
      (hnext : Repeats inv rounds (mergeRound inv working).1 merged) : Repeats inv (rounds + 1) working merged

theorem length_mergeRound_lt {working : List (Candidate R)} (h : (mergeRound inv working).2 = true) :
    (mergeRound inv working).1.length < working.length := by
  rw [mergeRound_eq_sweepRound] at h ⊢
  exact length_sweepRound_lt h

theorem length_mergeRound_pos {working : List (Candidate R)} (h : 0 < working.length) :
    0 < (mergeRound inv working).1.length := by
  rw [mergeRound_eq_sweepRound]
  exact List.length_pos_iff.2 (sweepRound_ne_nil _ _ (List.length_pos_iff.1 h))

theorem exists_repeats (fuel : Nat) {working : List (Candidate R)} (hfuel : working.length < fuel) :
    ∃ rounds ≤ max 1 working.length, Repeats inv rounds working (mergeRounds inv fuel working) := by
  induction fuel generalizing working with
  | zero => exact absurd hfuel (Nat.not_lt_zero _)
  | succ fuel ih =>
    rw [mergeRounds_succ]
    cases h : (mergeRound inv working).2 with
    | false =>
      rw [if_neg Bool.false_ne_true]
      exact ⟨1, le_max_left _ _, .last h⟩
    | true =>
      have hlt := length_mergeRound_lt h
      have hpos : 0 < (mergeRound inv working).1.length := length_mergeRound_pos (by omega)
      have hless : (mergeRound inv working).1.length < fuel := by omega
      obtain ⟨rounds, hle, hrepeats⟩ := ih hless
      rw [if_pos rfl]
      exact ⟨rounds + 1, by omega, .again h hrepeats⟩

omit [Scalar R] in
theorem length_mergeOrder (maxCandidates : Int) (candidates : List (Candidate R)) :
    (mergeOrder maxCandidates candidates).length = (candidates.filter Candidate.isKept).length :=
  (inMergeOrder_mergeOrder maxCandidates candidates).perm.length_eq

/-- The merger ends after no more rounds than there are candidates with a member or a file. A pass tells that it changed
something exactly if it leaves fewer candidates, and each search within a pass ends. -/
theorem mergeAll_rounds_le (inv : Option Inventory) (maxCandidates : Int) (candidates : List (Candidate R)) :
    (∃ rounds ≤ max 1 (candidates.filter Candidate.isKept).length,
      Repeats inv rounds (mergeOrder maxCandidates candidates) (mergeAll inv maxCandidates candidates)) ∧
      (∀ working : List (Candidate R),
        (overlapPass inv working).2 = true ↔ (overlapPass inv working).1.length < working.length) ∧
        (∀ (inv : Inventory) (working : List (Candidate R)),
          (couplingPass inv working).2 = true ↔ (couplingPass inv working).1.length < working.length) ∧
          ∀ (features : Array Feature) (seed : Nat) (taken : List Nat) (f : Feature) (area : String),
            features[seed]? = some f → f.area = some area → EndsSearch features area seed taken f.names := by
  refine ⟨?_, ?_, ?_, ?_⟩
  · rw [← length_mergeOrder maxCandidates]
    exact exists_repeats _ (Nat.lt_succ_self _)
  · intro working
    rw [overlapPass_eq_sweepWith]
    exact sweepWith_changed_iff_length_lt working
  · intro inv working
    rw [couplingPass_eq_sweepWith]
    exact sweepWith_changed_iff_length_lt working
  · intro features seed taken f area hf ha
    exact endsSearch hf ha taken

theorem mergeAll_rounds_le_order_cart :
    (∃ rounds ≤ max 1 2, Repeats none rounds (mergeOrder 400 orderAndCart) (mergeAll none 400 orderAndCart)) ∧
      (orderAndCart.map fileFeature).toArray[0]? = some (fileFeature orderAndCart[0]) ∧
        EndsSearch (orderAndCart.map fileFeature).toArray "" 0 [] (fileFeature orderAndCart[0]).names := by
  obtain ⟨hrounds, -, -, hsearch⟩ := mergeAll_rounds_le none 400 orderAndCart
  exact ⟨hrounds, rfl, hsearch _ 0 [] (fileFeature orderAndCart[0]) "" rfl rfl⟩

end Rounds

section Stable

omit [Scalar R] in
theorem isKept_iff {c : Candidate R} : c.isKept = true ↔ (∃ i, i ∈ c.members) ∨ ∃ f, f ∈ c.files := by
  rw [isKept, Bool.or_eq_true]
  simp only [SortedSet.isEmpty, Bool.not_eq_true', List.isEmpty_eq_false_iff_exists_mem, SortedSet.mem_def]

theorem isKept_combine {c : Candidate R} {cs : List (Candidate R)} (h : ∀ d ∈ c :: cs, d.isKept = true) :
    (combine inv c cs).isKept = true := by
  have hgathers := gathers_combine inv c cs
  rw [isKept_iff]
  refine (isKept_iff.1 (h c List.mem_cons_self)).imp ?_ ?_
  · rintro ⟨i, hi⟩
    exact ⟨i, (hgathers.members i).2 ⟨c, List.mem_cons_self, hi⟩⟩
  · rintro ⟨f, hf⟩
    exact ⟨f, (hgathers.files f).2 ⟨c, List.mem_cons_self, hf⟩⟩

omit [Scalar R] in
theorem mergeOrder_perm_of_isKept (h : ∀ c ∈ candidates, c.isKept = true) :
    (mergeOrder maxCandidates candidates).Perm candidates := by
  have hperm := (inMergeOrder_mergeOrder maxCandidates candidates).perm
  rwa [List.filter_eq_self.2 h] at hperm

theorem mergeAll_of_not_joins (hkept : ∀ c ∈ candidates, c.isKept = true)
    (hstable : ∀ feature ∈ mergeFeatures inv, candidates.Pairwise fun c d => (feature c).joins (feature d) = false) :
    mergeAll inv maxCandidates candidates = mergeOrder maxCandidates candidates := by
  rw [mergeAll, mergeRounds_eq_sweepRounds]
  apply sweepRounds_of_unchanged (combine_nil inv)
  rw [sweepRound_unchanged_iff (combine_nil inv)]
  intro feature hf
  rw [sweepWith_unchanged_iff]
  -- two candidates that are apart are so in both orders, so the order of the list does not matter
  refine (List.Perm.pairwise_iff ?_ (mergeOrder_perm_of_isKept hkept)).2 (hstable feature hf)
  intro c d hapart
  rwa [joins_comm]

theorem isKept_of_mem_mergeAll {c : Candidate R} (hc : c ∈ mergeAll inv maxCandidates candidates) :
    c.isKept = true := by
  rw [mergeAll, mergeRounds_eq_sweepRounds] at hc
  refine sweepRounds_induction (p := fun l => ∀ c ∈ l, c.isKept = true) ?_ _ ?_ c hc
  · intro feature _ l hl
    rw [sweepWith, List.forall_mem_map]
    intro g hg
    exact isKept_combine fun d hd => hl d (mem_of_mem_sweep hg d hd)
  · intro d hd
    exact (mem_mergeOrder.1 hd).2

/-- Merging again changes nothing, except that more than `maxCandidates` candidates are put in order. -/
theorem mergeAll_mergeAll (inv : Option Inventory) (maxCandidates : Int) (candidates : List (Candidate R)) :
    (mergeAll inv maxCandidates (mergeAll inv maxCandidates candidates)).Perm
        (mergeAll inv maxCandidates candidates) ∧
      ((mergeAll inv maxCandidates candidates).length ≤ maxCandidates →
        mergeAll inv maxCandidates (mergeAll inv maxCandidates candidates) =
          mergeAll inv maxCandidates candidates) := by
  have hkept : ∀ c ∈ mergeAll inv maxCandidates candidates, c.isKept = true := fun c => isKept_of_mem_mergeAll
  have hagain : mergeAll inv maxCandidates (mergeAll inv maxCandidates candidates) =
      mergeOrder maxCandidates (mergeAll inv maxCandidates candidates) :=
    mergeAll_of_not_joins hkept fun feature hf => mergeAll_pairwise_not_joins hf maxCandidates candidates
  have hperm : (mergeOrder maxCandidates (mergeAll inv maxCandidates candidates)).Perm _ :=
    mergeOrder_perm_of_isKept hkept
  rw [hagain]
  refine ⟨hperm, ?_⟩
  intro hcount
  rw [(inMergeOrder_mergeOrder maxCandidates _).unchanged (by rwa [hperm.length_eq]), List.filter_eq_self.2 hkept]

def orderUserAndCart : List (Candidate Rat) := [
  { name := "order", files := SortedSet.ofList ["order/a.go", "order/b.go"], cohesion := 1 / 5 },
  { name := "user", files := SortedSet.ofList ["user/a.go"], cohesion := 1 / 2 },
  { name := "cart", files := SortedSet.ofList ["order/a.go", "order/b.go", "order/c.go"], cohesion := 3 / 5 }]

theorem mergeAll_mergeAll_order_user_cart :
    (mergeAll none 400 orderUserAndCart).length ≤ (400 : Int) ∧
      mergeAll none 400 (mergeAll none 400 orderUserAndCart) = mergeAll none 400 orderUserAndCart := by
  have hcount : (mergeAll none 400 orderUserAndCart).length ≤ (400 : Int) := by decide +kernel
  exact ⟨hcount, (mergeAll_mergeAll none 400 orderUserAndCart).2 hcount⟩

end Stable

end Candidate

end Demarcation
