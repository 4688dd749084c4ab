import Demarcation.Proofs.Selection

namespace Demarcation

theorem SortedSet.meets_iff {α : Type} [LT α] [DecidableEq α] {s t : SortedSet α} :
    s.meets t = true ↔ ∃ a ∈ s, a ∈ t := by
  rw [meets, List.any_eq_true]
  simp only [decide_eq_true_eq, mem_def]

namespace Candidate

variable {R : Type} {kept scored : List (Scored R)} {c : Candidate R} {f : String}

def CoveredByFiner (kept : List (Scored R)) (c : Candidate R) : Prop :=
  ∃ finer : List (Scored R), finer.Sublist kept ∧ 2 ≤ finer.length ∧
    (∀ s ∈ finer, s.1.files.size < c.files.size ∧ ∃ f ∈ s.1.files, f ∈ c.files) ∧
      ∀ f ∈ c.files, ∃ s ∈ finer, f ∈ s.1.files

section Cover

def finerThan (kept : List (Scored R)) (c : Candidate R) : List (Scored R) :=
  kept.filter fun s => decide (s.1.files.size < c.files.size) && s.1.files.meets c.files

theorem mem_finerThan_iff {s : Scored R} :
    s ∈ finerThan kept c ↔ s ∈ kept ∧ s.1.files.size < c.files.size ∧ ∃ f ∈ s.1.files, f ∈ c.files := by
  rw [finerThan, List.mem_filter, Bool.and_eq_true, decide_eq_true_eq, SortedSet.meets_iff]

theorem coveringOf_eq_map (kept : List (Scored R)) (c : Candidate R) :
    coveringOf kept c = (finerThan kept c).map (·.1) := by
  rw [coveringOf, List.filter_map]
  rfl

theorem mem_unions_coveringOf_iff :
    f ∈ SortedSet.unions ((coveringOf kept c).map (·.files)) ↔ ∃ s ∈ finerThan kept c, f ∈ s.1.files := by
  rw [coveringOf_eq_map, SortedSet.mem_unions, List.map_map]
  simp only [List.mem_map, Function.comp_apply, exists_exists_and_eq_and]

theorem coveredByFiner_iff :
    CoveredByFiner kept c ↔
      2 ≤ (finerThan kept c).length ∧ ∀ f ∈ c.files, ∃ s ∈ finerThan kept c, f ∈ s.1.files := by
  constructor
  · rintro ⟨finer, hkept, htwo, hfiner, hcover⟩
    -- All that cover `c` together are among those that take part.
    have hsublist : finer.Sublist (finerThan kept c) := by
      have hall : finer.filter (fun s => decide (s.1.files.size < c.files.size) && s.1.files.meets c.files) = finer := by
        rw [List.filter_eq_self]
        intro s hs
        rw [Bool.and_eq_true, decide_eq_true_eq, SortedSet.meets_iff]
        exact hfiner s hs
      rw [← hall]
      exact hkept.filter _
    refine ⟨htwo.trans hsublist.length_le, ?_⟩
    intro f hf
    obtain ⟨s, hs, hfs⟩ := hcover f hf
    exact ⟨s, hsublist.subset hs, hfs⟩
  · rintro ⟨htwo, hcover⟩
    exact ⟨finerThan kept c, List.filter_sublist, htwo, fun s hs => (mem_finerThan_iff.1 hs).2, hcover⟩

theorem isUmbrella_iff : isUmbrella kept c = true ↔ c.declared = false ∧ CoveredByFiner kept c := by
  have hlength : (coveringOf kept c).length = (finerThan kept c).length := by
    rw [coveringOf_eq_map, List.length_map]
  have hsubset : c.files ⊆ SortedSet.unions ((coveringOf kept c).map (·.files)) ↔
      ∀ f ∈ c.files, ∃ s ∈ finerThan kept c, f ∈ s.1.files :=
    forall₂_congr fun _ _ => mem_unions_coveringOf_iff
  simp only [isUmbrella, Bool.and_eq_true, Bool.not_eq_true', decide_eq_true_eq]
  rw [hlength, hsubset, coveredByFiner_iff, and_assoc]

end Cover

section Coverage

theorem exists_kept_iff : (∃ s ∈ dropUmbrellas scored, f ∈ s.1.files) ↔ ∃ s ∈ scored, f ∈ s.1.files := by
  constructor
  · rintro ⟨s, hs, hf⟩
    exact ⟨s, (mem_dropUmbrellas_iff.1 hs).1, hf⟩
  · rintro ⟨s, hs, hf⟩
    exact exists_mem_dropUmbrellas hs hf

theorem exists_selected_iff [Scalar R] {inv : Inventory} {threshold : R} {candidates : List (Candidate R)} :
    (∃ p ∈ select inv threshold candidates, f ∈ p.2.files) ↔
      ∃ s ∈ confident threshold candidates, f ∈ s.1.files := by
  rw [← exists_kept_iff]
  constructor
  · rintro ⟨p, hp, hf⟩
    obtain ⟨s, hs, rfl⟩ := mem_select_iff.1 hp
    exact ⟨s, hs, hf⟩
  · rintro ⟨s, hs, hf⟩
    exact ⟨_, mem_select_iff.2 ⟨s, hs, rfl⟩, hf⟩

end Coverage

/-- Exactly the candidates that the user did not declare and that finer kept ones cover are dropped. The files stay the
same, so a file of a confident candidate is in some boundary. -/
theorem dropUmbrellas_exact [Scalar R] (scored : List (Scored R)) :
    (∃ drops : Scored R → Bool, (dropUmbrellas scored).Perm (scored.filter fun s => !drops s) ∧
      ∀ s ∈ scored, drops s = true ↔ s.1.declared = false ∧ CoveredByFiner (dropUmbrellas scored) s.1) ∧
      (∀ f, (∃ s ∈ dropUmbrellas scored, f ∈ s.1.files) ↔ ∃ s ∈ scored, f ∈ s.1.files) ∧
      ∀ (inv : Inventory) (threshold : R) (candidates : List (Candidate R)) (f : String),
        (∃ p ∈ select inv threshold candidates, f ∈ p.2.files) ↔
          ∃ s ∈ confident threshold candidates, f ∈ s.1.files := by
  refine ⟨⟨fun s => isUmbrella (dropUmbrellas scored) s.1, ?_, fun s _ => isUmbrella_iff⟩, fun f => exists_kept_iff,
    fun inv threshold candidates f => exists_selected_iff⟩
  conv_lhs => rw [dropUmbrellas_eq_filter]
  exact (List.mergeSort_perm _ _).filter _

def nestedShop : List (Scored Rat) := [
  ({ name := "cart", files := SortedSet.ofList ["cart/a.go"], cohesion := 1 }, 1),
  ({ name := "order", files := SortedSet.ofList ["order/b.go"], cohesion := 1 }, 1),
  ({ name := "user", files := SortedSet.ofList ["user/c.go"], cohesion := 1 }, 1),
  ({ name := "store", files := SortedSet.ofList ["cart/a.go", "order/b.go"], cohesion := 1 }, 1),
  ({ name := "shop", files := SortedSet.ofList ["cart/a.go", "order/b.go", "user/c.go"], cohesion := 1 }, 1)]

theorem dropUmbrellas_nestedShop :
    dropUmbrellas nestedShop = nestedShop.foldl (fun kept s => if isUmbrella kept s.1 then kept else kept ++ [s]) [] := by
  have hsorted : byFileCount nestedShop = nestedShop := List.mergeSort_of_pairwise (by decide +kernel)
  change (byFileCount nestedShop).foldl (fun kept s => if isUmbrella kept s.1 then kept else kept ++ [s]) [] = _
  rw [hsorted]

theorem dropUmbrellas_exact_nestedShop :
    (∃ drops : Scored Rat → Bool, (dropUmbrellas nestedShop).Perm (nestedShop.filter fun s => !drops s) ∧
      ∀ s ∈ nestedShop, 2 ≤ s.1.files.size → drops s = true) ∧
      ∃ s ∈ dropUmbrellas nestedShop, "order/b.go" ∈ s.1.files := by
  obtain ⟨⟨drops, hperm, hdrops⟩, hfiles, -⟩ := dropUmbrellas_exact nestedShop
  have humbrella : ∀ s ∈ nestedShop, 2 ≤ s.1.files.size → isUmbrella (dropUmbrellas nestedShop) s.1 = true := by
    rw [dropUmbrellas_nestedShop]
    decide +kernel
  have hfile : ∃ s ∈ nestedShop, "order/b.go" ∈ s.1.files := by decide +kernel
  exact ⟨⟨drops, hperm, fun s hs hsize => (hdrops s hs).2 (isUmbrella_iff.1 (humbrella s hs hsize))⟩,
    (hfiles "order/b.go").2 hfile⟩

end Candidate

end Demarcation
