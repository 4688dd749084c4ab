import Demarcation.Proofs.Regrouping
import Demarcation.Proofs.UsageOverlap

/-!
Merging is local. Candidates of two families whose files lie in different directories never meet: no pass combines
them, and each pass does to one family what it would do if the other were not there (`sweepWith_filter`). The joint run
can take more rounds than the run of one family, but rounds over a stable family change nothing, so the runs agree
(`rounds_filter`).
-/

namespace Demarcation

open Text Feature

def FilesApart {R : Type} (c d : Candidate R) : Prop :=
  ∀ f ∈ c.files, ∀ g ∈ d.files, f ≠ g ∧ parentPath f ≠ parentPath g

instance {R : Type} (c d : Candidate R) : Decidable (FilesApart c d) :=
  inferInstanceAs (Decidable (∀ f ∈ c.files.toList, ∀ g ∈ d.files.toList, f ≠ g ∧ parentPath f ≠ parentPath g))

section Features

variable {R : Type}

theorem FilesApart.fileFeature {c d : Candidate R} (h : FilesApart c d) : c.fileFeature.Apart d.fileFeature := by
  intro area _ _ f hc hd
  exact (h f hc f hd).1 rfl

theorem FilesApart.usageFeature {c d : Candidate R} (h : FilesApart c d) (inv : Inventory) :
    (c.usageFeature inv).Apart (d.usageFeature inv) := by
  intro directory hc hd
  obtain ⟨⟨f, hf⟩, hfd⟩ := Candidate.singleDirectory_eq_some_iff.1 hc
  obtain ⟨⟨g, hg⟩, hgd⟩ := Candidate.singleDirectory_eq_some_iff.1 hd
  exact absurd ((hfd f hf).trans (hgd g hg).symm) (h f hf g hg).2

theorem FilesApart.apart {inv : Option Inventory} {feature : Candidate R → Feature}
    (hf : feature ∈ Candidate.mergeFeatures inv) {c d : Candidate R} (h : FilesApart c d) :
    (feature c).Apart (feature d) := by
  cases inv with
  | none =>
    obtain rfl := List.mem_singleton.1 hf
    exact h.fileFeature
  | some inv =>
    rcases List.mem_pair.1 hf with rfl | rfl
    · exact h.fileFeature
    · exact h.usageFeature inv

end Features

namespace Traced

variable {κ R : Type}

def family (t : Traced κ R) : Option κ := t.origin.head?

structure Familial (traced : List (Traced κ R)) : Prop where
  nonempty : ∀ t ∈ traced, t.origin ≠ []
  uniform : ∀ t ∈ traced, ∀ i ∈ t.origin, t.family = some i
  apart : ∀ t ∈ traced, ∀ u ∈ traced, t.family ≠ u.family → FilesApart t.candidate u.candidate

theorem Familial.family_eq_iff {traced : List (Traced κ R)} (h : Familial traced) {t : Traced κ R} (ht : t ∈ traced)
    {k : κ} : t.family = some k ↔ ∀ i ∈ t.origin, i = k := by
  constructor
  · intro hk i hi
    exact Option.some.inj ((h.uniform t ht i hi).symm.trans hk)
  · intro hall
    obtain ⟨i, hi⟩ := List.exists_mem_of_ne_nil _ (h.nonempty t ht)
    rw [h.uniform t ht i hi, hall i hi]

variable [Scalar R]

theorem mem_files_combine {inv : Option Inventory} {t : Traced κ R} {ts : List (Traced κ R)} {f : String} :
    f ∈ (combine inv t ts).candidate.files ↔ ∃ u ∈ t :: ts, f ∈ u.candidate.files := by
  have hgathers : Gathers ((t :: ts).map candidate) (combine inv t ts).candidate := gathers_combine inv _ _
  rw [hgathers.files]
  simp only [List.mem_map, exists_exists_and_eq_and]

variable [DecidableEq κ]

theorem sweepWith_filter (inv : Option Inventory) {feature : Candidate R → Feature}
    (hfeature : ∀ c d, FilesApart c d → (feature c).Apart (feature d)) {traced : List (Traced κ R)}
    (h : Familial traced) :
    Familial (sweepWith (feature ∘ candidate) (combine inv) traced).1 ∧
      ∀ k, (sweepWith (feature ∘ candidate) (combine inv) (traced.filter fun t => t.family = k)).1 =
        (sweepWith (feature ∘ candidate) (combine inv) traced).1.filter fun t => t.family = k := by
  obtain ⟨hsame, hgroups⟩ := sweep_filter (feature ∘ candidate) family
    fun t ht u hu hne => hfeature _ _ (h.apart t ht u hu hne)
  have hmem {g : Traced κ R × List (Traced κ R)} (hg : g ∈ sweep (feature ∘ candidate) traced) :
      ∀ t ∈ g.1 :: g.2, t ∈ traced := mem_of_mem_sweep hg
  have hfamily : ∀ g ∈ sweep (feature ∘ candidate) traced, (combine inv g.1 g.2).family = g.1.family :=
    fun g hg => head?_origin_combine inv (h.nonempty g.1 (hmem hg g.1 List.mem_cons_self)) g.2
  have hmade : ∀ g ∈ sweep (feature ∘ candidate) traced, ∀ t ∈ g.1 :: g.2, t.family = g.1.family :=
    fun g hg => List.forall_mem_cons.2 ⟨rfl, hsame g hg⟩
  refine ⟨⟨?_, ?_, ?_⟩, ?_⟩
  · rw [sweepWith, List.forall_mem_map]
    intro g hg
    exact origin_combine_ne_nil inv (h.nonempty g.1 (hmem hg g.1 List.mem_cons_self)) g.2
  · rw [sweepWith, List.forall_mem_map]
    intro g hg i hi
    obtain ⟨t, ht, hit⟩ := mem_origin_combine.1 hi
    rw [hfamily g hg, ← hmade g hg t ht]
    exact h.uniform t (hmem hg t ht) i hit
  · rw [sweepWith, List.forall_mem_map]
    intro g hg
    rw [List.forall_mem_map]
    intro g' hg' hne f hf f' hf'
    obtain ⟨t, ht, hft⟩ := mem_files_combine.1 hf
    obtain ⟨u, hu, hfu⟩ := mem_files_combine.1 hf'
    rw [hfamily g hg, hfamily g' hg', ← hmade g hg t ht, ← hmade g' hg' u hu] at hne
    exact h.apart t (hmem hg t ht) u (hmem hg' u hu) hne f hft f' hfu
  · intro k
    simp only [sweepWith, hgroups, List.filter_map]
    congr 1
    apply List.filter_congr
    intro g hg
    rw [Function.comp_apply, hfamily g hg]

theorem rounds_filter (inv : Option Inventory) (fuel : Nat) {traced : List (Traced κ R)} (h : Familial traced) :
    Familial (rounds inv fuel traced) ∧
      ∀ k, rounds inv fuel (traced.filter fun t => t.family = k) =
        (rounds inv fuel traced).filter fun t => t.family = k := by
  have hpass : ∀ feature ∈ (Candidate.mergeFeatures inv).map (· ∘ candidate), ∀ traced : List (Traced κ R),
      Familial traced → Familial (sweepWith feature (combine inv) traced).1 ∧
        ∀ k, (sweepWith feature (combine inv) (traced.filter fun t => t.family = k)).1 =
          (sweepWith feature (combine inv) traced).1.filter fun t => t.family = k := by
    rw [List.forall_mem_map]
    intro feature hf traced
    exact sweepWith_filter inv fun c d => FilesApart.apart hf
  refine ⟨sweepRounds_induction (fun feature hf l hl => (hpass feature hf l hl).1) fuel h, ?_⟩
  intro k
  apply sweepRounds_filter (combine_nil inv) _ fuel h
  intro feature hf l hl
  obtain ⟨hkept, hfilter⟩ := hpass feature hf l hl
  exact ⟨hkept, hfilter k⟩

end Traced

section Labelled

variable {κ R : Type} [Scalar R] {maxCandidates : Int}

def mergeLabelled (inv : Option Inventory) (labelled : List (κ × Candidate R)) : List (Traced κ R) :=
  let working := labelled.filter fun x => x.2.isKept
  Traced.rounds inv (working.length + 1) (working.map fun x => ⟨[x.1], x.2⟩)

theorem mergeAll_eq_mergeRounds (inv : Option Inventory) {candidates : List (Candidate R)} {fuel : Nat}
    (hcount : candidates.length ≤ maxCandidates) (hfuel : (candidates.filter Candidate.isKept).length < fuel) :
    Candidate.mergeAll inv maxCandidates candidates =
      Candidate.mergeRounds inv fuel (candidates.filter Candidate.isKept) := by
  have hle := List.length_filter_le Candidate.isKept candidates
  have hnot : ¬ maxCandidates < (candidates.filter Candidate.isKept).length := by omega
  have hworking : Candidate.mergeOrder maxCandidates candidates = candidates.filter Candidate.isKept := if_neg hnot
  rw [Candidate.mergeAll, hworking]
  rw [Candidate.mergeRounds_eq_sweepRounds, Candidate.mergeRounds_eq_sweepRounds]
  exact sweepRounds_eq (Nat.lt_succ_self _) hfuel

theorem mergeLabelled_map_candidate (inv : Option Inventory) {labelled : List (κ × Candidate R)}
    (hcount : labelled.length ≤ maxCandidates) :
    (mergeLabelled inv labelled).map (·.candidate) =
      Candidate.mergeAll inv maxCandidates (labelled.map (·.2)) := by
  have hkept : (labelled.map (·.2)).filter Candidate.isKept = (labelled.filter fun x => x.2.isKept).map (·.2) :=
    List.filter_map
  rw [mergeLabelled, Traced.rounds_map_candidate, List.map_map,
    mergeAll_eq_mergeRounds inv (by rwa [List.length_map]) (Nat.lt_succ_self _), hkept, List.length_map]
  rfl

omit [Scalar R] in
theorem familial_start {labelled : List (κ × Candidate R)}
    (hapart : ∀ x ∈ labelled, ∀ y ∈ labelled, x.1 ≠ y.1 → FilesApart x.2 y.2) :
    Traced.Familial (labelled.map fun x => ⟨[x.1], x.2⟩) := by
  refine ⟨?_, ?_, ?_⟩
  · rw [List.forall_mem_map]
    exact fun x _ => List.cons_ne_nil x.1 []
  · rw [List.forall_mem_map]
    intro x _ i hi
    rw [List.mem_singleton.1 hi]
    rfl
  · rw [List.forall_mem_map]
    intro x hx
    rw [List.forall_mem_map]
    intro y hy hne
    exact hapart x hx y hy fun he => hne (congrArg some he)

variable [DecidableEq κ]

theorem mergeLabelled_filter (inv : Option Inventory) {labelled : List (κ × Candidate R)}
    (hapart : ∀ x ∈ labelled, ∀ y ∈ labelled, x.1 ≠ y.1 → FilesApart x.2 y.2) :
    Traced.Familial (mergeLabelled inv labelled) ∧ ∀ k,
      ((mergeLabelled inv labelled).filter fun t => t.family = some k).map (·.candidate) =
        (mergeLabelled inv (labelled.filter fun x => x.1 = k)).map (·.candidate) := by
  have hstart : Traced.Familial ((labelled.filter fun x => x.2.isKept).map fun x => (⟨[x.1], x.2⟩ : Traced κ R)) :=
    familial_start fun x hx y hy => hapart x (List.mem_of_mem_filter hx) y (List.mem_of_mem_filter hy)
  obtain ⟨hfamilial, hfilter⟩ := Traced.rounds_filter inv ((labelled.filter fun x => x.2.isKept).length + 1) hstart
  refine ⟨hfamilial, ?_⟩
  intro k
  have hfamily : ((labelled.filter fun x => x.2.isKept).map fun x => (⟨[x.1], x.2⟩ : Traced κ R)).filter
      (fun t => t.family = some k) =
        ((labelled.filter fun x => x.1 = k).filter fun x => x.2.isKept).map fun x => ⟨[x.1], x.2⟩ := by
    rw [List.filter_map, List.filter_comm]
    simp only [Function.comp_def, Traced.family, List.head?_cons, Option.some.injEq]
  have hlength : ((labelled.filter fun x => x.1 = k).filter fun x => x.2.isKept).length ≤
      (labelled.filter fun x => x.2.isKept).length :=
    (List.filter_sublist.filter _).length_le
  rw [mergeLabelled, mergeLabelled, ← hfilter, hfamily, Traced.rounds_map_candidate,
    Traced.rounds_map_candidate, Candidate.mergeRounds_eq_sweepRounds, Candidate.mergeRounds_eq_sweepRounds]
  apply sweepRounds_eq
  · rw [List.length_map, List.length_map]
    exact Nat.lt_succ_of_le hlength
  · rw [List.length_map, List.length_map]
    exact Nat.lt_succ_self _

def orderUserCart : List (Bool × Candidate Rat) := [
  (true, { name := "order", files := SortedSet.ofList ["order/a.go", "order/b.go"], cohesion := 1 / 5 }),
  (false, { name := "user", files := SortedSet.ofList ["user/a.go"], cohesion := 1 / 2 }),
  (true, { name := "cart", files := SortedSet.ofList ["order/a.go", "order/b.go", "order/c.go"], cohesion := 3 / 5 })]

/-- Candidates of different directories do not influence each other. However two families are interleaved, what the
merger makes of one of them is what it makes of this family alone. -/
theorem mergeAll_local (inv : Option Inventory) {labelled : List (κ × Candidate R)}
    (hcount : labelled.length ≤ maxCandidates)
    (hapart : ∀ x ∈ labelled, ∀ y ∈ labelled, x.1 ≠ y.1 → FilesApart x.2 y.2) :
    (mergeLabelled inv labelled).map (·.candidate) = Candidate.mergeAll inv maxCandidates (labelled.map (·.2)) ∧
      (∀ t ∈ mergeLabelled inv labelled, ∃ k, t.origin ≠ [] ∧ ∀ i ∈ t.origin, i = k) ∧
        ∀ k, ((mergeLabelled inv labelled).filter fun t => t.origin.all (· = k)).map (·.candidate) =
          Candidate.mergeAll inv maxCandidates ((labelled.filter fun x => x.1 = k).map (·.2)) := by
  obtain ⟨hfamilial, hfilter⟩ := mergeLabelled_filter inv hapart
  refine ⟨mergeLabelled_map_candidate inv hcount, ?_, ?_⟩
  · intro t ht
    obtain ⟨k, hk⟩ := List.exists_mem_of_ne_nil _ (hfamilial.nonempty t ht)
    refine ⟨k, hfamilial.nonempty t ht, ?_⟩
    intro i hi
    exact Option.some.inj ((hfamilial.uniform t ht i hi).symm.trans (hfamilial.uniform t ht k hk))
  · intro k
    have hlength := List.length_filter_le (fun x : κ × Candidate R => decide (x.1 = k)) labelled
    rw [← mergeLabelled_map_candidate inv (by omega), ← hfilter k]
    congr 1
    apply List.filter_congr
    intro t ht
    rw [Bool.eq_iff_iff, List.all_eq_true, decide_eq_true_iff, hfamilial.family_eq_iff ht]
    simp only [decide_eq_true_eq]

theorem mergeAll_local_order_user_cart :
    (orderUserCart.length ≤ (400 : Int) ∧
      ∀ x ∈ orderUserCart, ∀ y ∈ orderUserCart, x.1 ≠ y.1 → FilesApart x.2 y.2) ∧
      ∀ k, ((mergeLabelled none orderUserCart).filter fun t => t.origin.all (· = k)).map (·.candidate) =
        Candidate.mergeAll none 400 ((orderUserCart.filter fun x => x.1 = k).map (·.2)) := by
  have hcount : orderUserCart.length ≤ (400 : Int) := by decide
  have hapart : ∀ x ∈ orderUserCart, ∀ y ∈ orderUserCart, x.1 ≠ y.1 → FilesApart x.2 y.2 := by decide +kernel
  exact ⟨⟨hcount, hapart⟩, (mergeAll_local none hcount hapart).2.2⟩

end Labelled

end Demarcation
