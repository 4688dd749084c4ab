import Demarcation.Proofs.MergePasses
import Demarcation.Proofs.SweepRounds

namespace Demarcation.Candidate

open Feature

variable {R : Type}

def mergeFeatures : Option Inventory → List (Candidate R → Feature)
  | none => [fileFeature]
  | some inv => [fileFeature, usageFeature inv]

theorem fileFeature_mem_mergeFeatures (inv : Option Inventory) : fileFeature ∈ mergeFeatures (R := R) inv := by
  cases inv with
  | none => exact List.mem_cons_self
  | some inv => exact List.mem_cons_self

variable [Scalar R]

theorem mergeRound_eq_sweepRound (inv : Option Inventory) (candidates : List (Candidate R)) :
    mergeRound inv candidates = sweepRound (combine inv) (mergeFeatures inv) candidates := by
  cases inv with
  | none =>
    rw [mergeFeatures, sweepRound_cons, sweepRound_nil, Bool.or_false]
    exact overlapPass_eq_sweepWith none candidates
  | some inv =>
    rw [mergeFeatures, sweepRound_cons, sweepRound_cons, sweepRound_nil, Bool.or_false, ← overlapPass_eq_sweepWith,
      ← couplingPass_eq_sweepWith]
    rfl

theorem mergeRounds_succ (inv : Option Inventory) (fuel : Nat) (candidates : List (Candidate R)) :
    mergeRounds inv (fuel + 1) candidates =
      if (mergeRound inv candidates).2 then mergeRounds inv fuel (mergeRound inv candidates).1
      else (mergeRound inv candidates).1 := rfl

theorem mergeRounds_eq_sweepRounds (inv : Option Inventory) (fuel : Nat) (candidates : List (Candidate R)) :
    mergeRounds inv fuel candidates = sweepRounds (combine inv) (mergeFeatures inv) fuel candidates := by
  induction fuel generalizing candidates with
  | zero => rfl
  | succ fuel ih => rw [mergeRounds_succ, sweepRounds_succ, mergeRound_eq_sweepRound, ih]

theorem sweepRound_mergeAll (inv : Option Inventory) (maxCandidates : Int) (candidates : List (Candidate R)) :
    sweepRound (combine inv) (mergeFeatures inv) (mergeAll inv maxCandidates candidates) =
      (mergeAll inv maxCandidates candidates, false) := by
  rw [mergeAll, mergeRounds_eq_sweepRounds]
  exact sweepRound_sweepRounds (combine_nil inv) (Nat.lt_succ_self _)

/-- No two merged candidates have more than half of their files in common. -/
theorem mergeAll_files_overlap_le_half (inv : Option Inventory) (maxCandidates : Int)
    (candidates : List (Candidate R)) :
    (mergeAll inv maxCandidates candidates).Pairwise fun c d =>
      2 * (c.files ∩ d.files).size ≤ (c.files ∪ d.files).size := by
  have hstable := congrArg Prod.snd (sweepRound_mergeAll inv maxCandidates candidates)
  have hpass := (sweepRound_unchanged_iff (combine_nil inv)).1 hstable fileFeature (fileFeature_mem_mergeFeatures inv)
  rw [sweepWith_unchanged_iff] at hpass
  apply hpass.imp
  intro c d hcd
  exact Nat.not_lt.1 (mt fileFeature_joins.2 (Bool.eq_false_iff.1 hcd))

end Demarcation.Candidate
