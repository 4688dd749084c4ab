import Demarcation.Proofs.MergeRounds

/-!
The merger also compares candidates of one directory by the declared names that they use. It stops in a list that this
pass leaves as it is, so each pair of one directory was compared by what its members use in the end, however the sets of
names were grown on the way (`mergeAll_usage_overlap_le_half`).
-/

namespace Demarcation.Candidate

open Text Feature

variable {R : Type}

def LiesIn (c : Candidate R) (directory : String) : Prop :=
  (∃ f, f ∈ c.files) ∧ ∀ f ∈ c.files, parentPath f = directory

theorem singleDirectory_eq_some_iff {c : Candidate R} {directory : String} :
    c.singleDirectory = some directory ↔ c.LiesIn directory := by
  have hmem {d : String} : d ∈ SortedSet.ofList (c.files.toList.map parentPath) ↔ ∃ f ∈ c.files, parentPath f = d :=
    SortedSet.mem_ofList.trans List.mem_map
  rw [singleDirectory]
  constructor
  · intro h
    split at h
    · rename_i d hd
      obtain rfl := Option.some.inj h
      have honly : ∀ e, e ∈ SortedSet.ofList (c.files.toList.map parentPath) ↔ e = d := by
        intro e
        rw [SortedSet.mem_def, hd, List.mem_singleton]
      obtain ⟨f, hf, -⟩ := hmem.1 ((honly d).2 rfl)
      exact ⟨⟨f, hf⟩, fun g hg => (honly _).1 (hmem.2 ⟨g, hg, rfl⟩)⟩
    · cases h
  · rintro ⟨⟨f, hf⟩, hall⟩
    have hset : SortedSet.ofList (c.files.toList.map parentPath) = SortedSet.ofList [directory] := by
      apply SortedSet.ext
      intro d
      rw [hmem, SortedSet.mem_ofList, List.mem_singleton]
      constructor
      · rintro ⟨g, hg, rfl⟩
        exact hall g hg
      · rintro rfl
        exact ⟨f, hf, hall f hf⟩
    rw [hset]
    rfl

theorem usageFeature_joins {inv : Inventory} {c d : Candidate R} :
    (c.usageFeature inv).joins (d.usageFeature inv) = true ↔
      ∃ directory, c.LiesIn directory ∧ d.LiesIn directory ∧
        (c.usedNames inv ∪ d.usedNames inv).size < 2 * (c.usedNames inv ∩ d.usedNames inv).size := by
  simp only [joins_iff, usageFeature, singleDirectory_eq_some_iff, SortedSet.overlapsHalf_iff]

variable [Scalar R]

theorem mergeAll_pairwise_not_joins {inv : Option Inventory} {feature : Candidate R → Feature}
    (hf : feature ∈ mergeFeatures inv) (maxCandidates : Int) (candidates : List (Candidate R)) :
    (mergeAll inv maxCandidates candidates).Pairwise fun c d => (feature c).joins (feature d) = false := by
  have hstable := congrArg Prod.snd (sweepRound_mergeAll inv maxCandidates candidates)
  exact (sweepWith_unchanged_iff _).1 ((sweepRound_unchanged_iff (combine_nil inv)).1 hstable feature hf)

/-- No two merged candidates of one directory use mostly the same declared names. -/
theorem mergeAll_usage_overlap_le_half (inv : Inventory) (maxCandidates : Int) (candidates : List (Candidate R)) :
    (mergeAll (some inv) maxCandidates candidates).Pairwise fun c d =>
      ∀ directory, c.LiesIn directory → d.LiesIn directory →
        2 * (c.usedNames inv ∩ d.usedNames inv).size ≤ (c.usedNames inv ∪ d.usedNames inv).size := by
  have husage : usageFeature inv ∈ mergeFeatures (R := R) (some inv) := List.mem_cons_of_mem _ List.mem_cons_self
  apply (mergeAll_pairwise_not_joins husage maxCandidates candidates).imp
  intro c d hapart directory hc hd
  apply Nat.not_lt.1
  intro hover
  exact Bool.eq_false_iff.1 hapart (usageFeature_joins.2 ⟨directory, hc, hd, hover⟩)

end Demarcation.Candidate
