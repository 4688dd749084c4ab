import Demarcation.Proofs.InventoryMembers
import Demarcation.Proofs.Regrouping
import Demarcation.Proofs.Search
import Demarcation.Proofs.UsageOverlap

namespace Demarcation

open Feature

variable {R : Type}

namespace Candidate

instance (c : Candidate R) (directory : String) : Decidable (c.LiesIn directory) :=
  decidable_of_iff (c.singleDirectory = some directory) singleDirectory_eq_some_iff

section Scan

variable (inv : Inventory)

def scanByUsage (directory : String) (names : SortedSet String) :
    List (Candidate R) → List (Candidate R) × List (Candidate R)
  | [] => ([], [])
  | c :: cs =>
    if c.LiesIn directory ∧ (names ∪ c.usedNames inv).size < 2 * (names ∩ c.usedNames inv).size then
      let rest := scanByUsage directory (names ∪ c.usedNames inv) cs
      (c :: rest.1, rest.2)
    else
      let rest := scanByUsage directory names cs
      (rest.1, c :: rest.2)

/-- What a candidate absorbs of the later ones, and what is left. A candidate scans them only if its files lie in one
directory and it uses some declared name. -/
def scanFrom (c : Candidate R) (cs : List (Candidate R)) : List (Candidate R) × List (Candidate R) :=
  match c.singleDirectory with
  | some directory => if (c.usedNames inv).isEmpty then ([], cs) else scanByUsage inv directory (c.usedNames inv) cs
  | none => ([], cs)

theorem scanByUsage_eq_sift (directory : String) (names : SortedSet String) (candidates : List (Candidate R)) :
    scanByUsage inv directory names candidates = sift (usageFeature inv) ⟨some directory, names⟩ candidates := by
  induction candidates generalizing names with
  | nil => rfl
  | cons c cs ih =>
    have hjoins : joins ⟨some directory, names⟩ (c.usageFeature inv) = true ↔
        c.LiesIn directory ∧ (names ∪ c.usedNames inv).size < 2 * (names ∩ c.usedNames inv).size := by
      rw [joins_area, SortedSet.overlapsHalf_iff, usageFeature, singleDirectory_eq_some_iff]
    by_cases h : c.LiesIn directory ∧ (names ∪ c.usedNames inv).size < 2 * (names ∩ c.usedNames inv).size
    · rw [sift_cons_of_joins (usageFeature inv) cs (hjoins.2 h), scanByUsage, if_pos h, ih]
      rfl
    · have hj := Bool.eq_false_iff.2 (mt hjoins.1 h)
      rw [sift_cons_of_not_joins (usageFeature inv) cs hj, scanByUsage, if_neg h, ih]

theorem scanFrom_eq_sift (c : Candidate R) (cs : List (Candidate R)) :
    scanFrom inv c cs = sift (usageFeature inv) (c.usageFeature inv) cs := by
  rw [scanFrom]
  cases hc : c.singleDirectory with
  | none => exact (sift_eq_of_forall_not_joins fun _ _ => not_joins_of_area_none hc).symm
  | some directory =>
    have hfeature : c.usageFeature inv = ⟨some directory, c.usedNames inv⟩ := by rw [usageFeature, hc]
    by_cases hempty : (c.usedNames inv).isEmpty
    · simp only [hempty, ↓reduceIte]
      refine (sift_eq_of_forall_not_joins fun d _ => ?_).symm
      have hnone : (c.usedNames inv).toList = [] := List.isEmpty_iff.1 hempty
      apply Apart.not_joins
      intro area _ _ name hname
      rw [usageFeature, SortedSet.mem_def, hnone] at hname
      exact absurd hname List.not_mem_nil
    · simp only [hempty, Bool.false_eq_true, ↓reduceIte]
      rw [scanByUsage_eq_sift, hfeature]

end Scan

variable [Scalar R]

def quadraticCouplingPass (inv : Inventory) : List (Candidate R) → List (Candidate R) × Bool
  | [] => ([], false)
  | c :: cs =>
    let scanned := scanFrom inv c cs
    let rest := quadraticCouplingPass inv scanned.2
    (combine (some inv) c scanned.1 :: rest.1, !scanned.1.isEmpty || rest.2)
termination_by cs => cs.length
decreasing_by
  rw [scanFrom_eq_sift]
  exact Nat.lt_succ_of_le (sift_snd_sublist _ _ _).length_le

theorem couplingPass_eq_plain (inv : Inventory) (candidates : List (Candidate R)) :
    couplingPass inv candidates = quadraticCouplingPass inv candidates := by
  rw [couplingPass_eq_sweepWith]
  fun_induction quadraticCouplingPass inv candidates with
  | case1 => rw [sweepWith, sweep_nil]; rfl
  | case2 c cs scanned rest ih =>
    have hscan : scanned = sift (usageFeature inv) (c.usageFeature inv) cs := scanFrom_eq_sift inv c cs
    rw [sweepWith_cons, ← hscan, ih]

omit [Scalar R] in
theorem mem_usedNames_iff {inv : Inventory} {c : Candidate R} {name : String} :
    name ∈ c.usedNames inv ↔ name ∈ inv.declaredNames ∧
      ∃ i ∈ c.members, ∃ d, inv.declarations[i]? = some d ∧ name ∈ Inventory.Declaration.usedNames d :=
  Inventory.mem_usedNames_iff

theorem mem_usedNames_combine {inv : Inventory} {inv' : Option Inventory} {c : Candidate R} {cs : List (Candidate R)}
    {name : String} :
    name ∈ (combine inv' c cs).usedNames inv ↔ ∃ d ∈ c :: cs, name ∈ d.usedNames inv := by
  simp only [mem_usedNames_iff, (gathers_combine inv' c cs).members]
  constructor
  · rintro ⟨hdeclared, i, ⟨d, hd, hi⟩, huse⟩
    exact ⟨d, hd, hdeclared, i, hi, huse⟩
  · rintro ⟨d, hd, hdeclared, i, hi, huse⟩
    exact ⟨hdeclared, i, ⟨d, hd, hi⟩, huse⟩

theorem usedNames_combineAt? {inv : Inventory} {candidates : List (Candidate R)} {seed : Nat} {taken : List Nat}
    {c : Candidate R} {directory : String} (hc : candidates[seed]? = some c) (hd : c.singleDirectory = some directory) :
    (combineAt? (some inv) candidates.toArray
        (seed :: absorbedBy (candidates.map (usageFeature inv)).toArray seed taken)).map (·.usedNames inv) =
      some (searched (candidates.map (usageFeature inv)).toArray directory seed taken (c.usedNames inv)).names := by
  have hfeature (j : Nat) : (candidates.map (usageFeature inv)).toArray[j]? = candidates[j]?.map (usageFeature inv) := by
    rw [List.getElem?_toArray, List.getElem?_map]
  have hseed : (candidates.map (usageFeature inv)).toArray[seed]? = some (c.usageFeature inv) := by
    rw [hfeature, hc, Option.map_some]
  obtain ⟨js, hsearch, -⟩ := exists_searches_searched (candidates.map (usageFeature inv)).toArray directory seed taken
    (c.usedNames inv)
  rw [absorbedBy_of_area hseed hd, combineAt?]
  simp only [List.getElem?_toArray, List.filterMap_cons, hc, Option.map_some, Option.some.injEq]
  apply SortedSet.ext
  intro name
  rw [mem_usedNames_combine, List.exists_mem_cons_iff]
  refine Iff.trans ?_ hsearch.mem_names_iff.symm
  apply or_congr_right
  constructor
  · rintro ⟨d, hd, hname⟩
    obtain ⟨j, hj, hjd⟩ := List.mem_filterMap.1 hd
    refine ⟨j, hj, d.usageFeature inv, ?_, hname⟩
    rw [hfeature, hjd, Option.map_some]
  · rintro ⟨j, hj, f, hf, hname⟩
    rw [hfeature] at hf
    obtain ⟨d, hjd, rfl⟩ := Option.map_eq_some_iff.1 hf
    exact ⟨d, List.mem_filterMap.2 ⟨j, hj, hjd⟩, hname⟩

/-- The pass over candidates of one directory is the plain pass, and the names that a group has grown in its search are
those that the combined candidate uses. -/
theorem couplingPass_eq_quadraticCouplingPass (inv : Inventory) (candidates : List (Candidate R)) :
    couplingPass inv candidates = quadraticCouplingPass inv candidates ∧
      ∀ (seed : Nat) (taken : List Nat) (c : Candidate R) (directory : String),
        candidates[seed]? = some c → c.LiesIn directory →
          (combineAt? (some inv) candidates.toArray
              (seed :: absorbedBy (candidates.map (usageFeature inv)).toArray seed taken)).map (·.usedNames inv) =
            some (searched (candidates.map (usageFeature inv)).toArray directory seed taken (c.usedNames inv)).names := by
  refine ⟨couplingPass_eq_plain inv candidates, ?_⟩
  intro seed taken c directory hc hdirectory
  exact usedNames_combineAt? hc (singleDirectory_eq_some_iff.2 hdirectory)

def invoiceAndLedger : Inventory := .build [
  { kind := .struct, name := "Invoice", file := "billing/invoice.go", line := 3, references := ["Ledger"] },
  { kind := .function, name := "IssueInvoice", file := "billing/invoice.go", line := 8,
    references := ["Ledger", "Invoice"], calls := ["PostEntry"] },
  { kind := .struct, name := "Ledger", file := "billing/ledger.go", line := 3, references := ["Invoice"] },
  { kind := .function, name := "PostEntry", file := "billing/ledger.go", line := 7,
    references := ["Ledger", "Invoice"] }]

def billingCandidates : List (Candidate Float) := [
  { name := "invoice", members := SortedSet.ofList [0, 1], files := SortedSet.ofList ["billing/invoice.go"],
    cohesion := Scalar.ofNat 1 },
  { name := "ledger", members := SortedSet.ofList [2, 3], files := SortedSet.ofList ["billing/ledger.go"],
    cohesion := Scalar.ofNat 1 }]

theorem couplingPass_eq_quadraticCouplingPass_billing :
    (∃ c, billingCandidates[0]? = some c ∧ c.LiesIn "billing" ∧
      (combineAt? (some invoiceAndLedger) billingCandidates.toArray
          (0 :: absorbedBy (billingCandidates.map (usageFeature invoiceAndLedger)).toArray 0 [])).map
            (·.usedNames invoiceAndLedger) =
        some (searched (billingCandidates.map (usageFeature invoiceAndLedger)).toArray "billing" 0 []
          (c.usedNames invoiceAndLedger)).names) := by
  have hdirectory : (billingCandidates[0]).LiesIn "billing" := by decide +kernel
  exact ⟨_, rfl, hdirectory,
    (couplingPass_eq_quadraticCouplingPass invoiceAndLedger billingCandidates).2 0 [] _ _ rfl hdirectory⟩

end Candidate

end Demarcation
