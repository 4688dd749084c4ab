import Demarcation.Proofs.MergeRounds

namespace Demarcation

open Feature

structure Traced (κ R : Type) where
  origin : List κ
  candidate : Candidate R

namespace Traced

variable {κ R : Type} [Scalar R]

def combine (inv : Option Inventory) (first : Traced κ R) (rest : List (Traced κ R)) : Traced κ R where
  origin := (first :: rest).flatMap (·.origin)
  candidate := Candidate.combine inv first.candidate (rest.map (·.candidate))

def rounds (inv : Option Inventory) : Nat → List (Traced κ R) → List (Traced κ R) :=
  sweepRounds (combine inv) ((Candidate.mergeFeatures inv).map (· ∘ candidate))

theorem combine_nil (inv : Option Inventory) (t : Traced κ R) : combine inv t [] = t := by
  simp only [combine, List.flatMap_singleton, List.map_nil, Candidate.combine_nil]

theorem mem_origin_combine {inv : Option Inventory} {t : Traced κ R} {ts : List (Traced κ R)} {i : κ} :
    i ∈ (combine inv t ts).origin ↔ ∃ u ∈ t :: ts, i ∈ u.origin := List.mem_flatMap

theorem origin_combine_ne_nil (inv : Option Inventory) {t : Traced κ R} (h : t.origin ≠ []) (ts : List (Traced κ R)) :
    (combine inv t ts).origin ≠ [] := by
  obtain ⟨i, hi⟩ := List.exists_mem_of_ne_nil _ h
  exact List.ne_nil_of_mem (mem_origin_combine.2 ⟨t, List.mem_cons_self, hi⟩)

theorem head?_origin_combine (inv : Option Inventory) {t : Traced κ R} (h : t.origin ≠ []) (ts : List (Traced κ R)) :
    (combine inv t ts).origin.head? = t.origin.head? := by
  obtain ⟨i, is, hi⟩ := List.exists_cons_of_ne_nil h
  rw [combine, List.flatMap_cons, hi, List.cons_append, List.head?_cons, List.head?_cons]

theorem rounds_map_candidate (inv : Option Inventory) (fuel : Nat) (traced : List (Traced κ R)) :
    (rounds inv fuel traced).map (·.candidate) = Candidate.mergeRounds inv fuel (traced.map (·.candidate)) := by
  rw [Candidate.mergeRounds_eq_sweepRounds, rounds]
  exact (sweepRounds_map candidate (fun _ _ => rfl) fuel traced).symm

end Traced

end Demarcation
