import Demarcation.Proofs.SelectionOrder

namespace Demarcation

open LawfulScalar

namespace Candidate

section Thresholds

variable {R : Type} [Scalar R] [LawfulScalar R] {low high : R}

theorem lt_of_lt_of_not_lt {x : R} (hhigh : IsNumber high) (hle : Scalar.lt high low = false)
    (h : Scalar.lt x low = true) : Scalar.lt x high = true := by
  obtain ⟨hx, hlow, hplace⟩ := lt_iff.1 h
  have hnot : ¬ place high < place low := fun hlt => Bool.eq_false_iff.1 hle (lt_iff.2 ⟨hhigh, hlow, hlt⟩)
  exact lt_iff.2 ⟨hx, hhigh, hplace.trans_le (not_lt.1 hnot)⟩

theorem weigh_of_le (hhigh : IsNumber high) (hle : Scalar.lt high low = false) {s t : Scored R}
    (h : weigh high s = some t) : weigh low s = some t := by
  rw [weigh] at h ⊢
  split
  · rwa [if_pos ‹_›] at h
  · rw [if_neg ‹_›] at h
    split at h
    · cases h
    · rename_i hreaches
      rwa [if_neg (fun hlt => hreaches (lt_of_lt_of_not_lt hhigh hle hlt))]

theorem confident_subset_of_le (hhigh : IsNumber high) (hle : Scalar.lt high low = false)
    (candidates : List (Candidate R)) : confident high candidates ⊆ confident low candidates := by
  intro t ht
  rw [confident_eq_filterMap, List.mem_filterMap] at ht ⊢
  obtain ⟨s, hs, hst⟩ := ht
  exact ⟨s, hs, weigh_of_le hhigh hle hst⟩

theorem exists_selected_of_le (hhigh : IsNumber high) (hle : Scalar.lt high low = false) {inv : Inventory}
    {candidates : List (Candidate R)} {p : Candidate R × Boundary R} (hp : p ∈ select inv high candidates)
    {f : String} (hf : f ∈ p.2.files) : ∃ q ∈ select inv low candidates, f ∈ q.2.files := by
  obtain ⟨s, hs, rfl⟩ := mem_select_iff.1 hp
  have hconfident := confident_subset_of_le hhigh hle candidates (mem_dropUmbrellas_iff.1 hs).1
  obtain ⟨t, ht, hft⟩ := exists_mem_dropUmbrellas hconfident hf
  exact ⟨(t.1, t.1.toBoundary inv t.2), mem_select_iff.2 ⟨t, ht, rfl⟩, hft⟩

end Thresholds

section Orphans

variable {R : Type} {inv : Inventory} {f : String}

theorem mem_orphanedFiles_iff {boundaries : List (Boundary R)} :
    f ∈ orphanedFiles inv boundaries ↔
      (∃ d ∈ inv.declarations.toList, d.file = f) ∧ ∀ b ∈ boundaries, f ∉ b.files := by
  rw [orphanedFiles, ← SortedSet.mem_def, SortedSet.mem_filter, SortedSet.mem_ofList, List.mem_map]
  simp

theorem orphanedFiles_subset {boundaries more : List (Boundary R)}
    (h : ∀ b ∈ boundaries, ∀ f ∈ b.files, ∃ c ∈ more, f ∈ c.files) :
    orphanedFiles inv more ⊆ orphanedFiles inv boundaries := by
  intro f hf
  obtain ⟨hdeclared, hfree⟩ := mem_orphanedFiles_iff.1 hf
  refine mem_orphanedFiles_iff.2 ⟨hdeclared, ?_⟩
  intro b hb hfb
  obtain ⟨c, hc, hfc⟩ := h b hb f hfb
  exact hfree c hc hfc

end Orphans

section Umbrella

def cartOrderAndShop : List (Candidate Float) := [
  { name := "cart", files := SortedSet.ofList ["cart/a.go"], cohesion := Scalar.decimal 5 1 },
  { name := "order", files := SortedSet.ofList ["order/b.go"], cohesion := Scalar.decimal 5 1 },
  { name := "shop", files := SortedSet.ofList ["cart/a.go", "order/b.go"], cohesion := Scalar.decimal 9 1 }]

theorem isNumber_half : IsNumber (Scalar.decimal 5 1 : Float) := by
  change (Scalar.decimal 5 1 : Float).isNaN = false
  decide +kernel

theorem shop_not_mem_dropUmbrellas :
    ∀ s ∈ dropUmbrellas (confident (Scalar.decimal 3 1) cartOrderAndShop),
      s.1.files ≠ SortedSet.ofList ["cart/a.go", "order/b.go"] := by
  have hsorted : byFileCount (confident (Scalar.decimal 3 1) cartOrderAndShop) =
      confident (Scalar.decimal 3 1) cartOrderAndShop := List.mergeSort_of_pairwise (by decide +kernel)
  have hscan : dropUmbrellas (confident (Scalar.decimal 3 1) cartOrderAndShop) =
      (byFileCount (confident (Scalar.decimal 3 1) cartOrderAndShop)).foldl
        (fun kept s => if isUmbrella kept s.1 then kept else kept ++ [s]) [] := rfl
  rw [hscan, hsorted]
  decide +kernel

theorem exists_shop_mem_dropUmbrellas :
    ∃ s ∈ dropUmbrellas (confident (Scalar.decimal 5 1) cartOrderAndShop),
      s.1.files = SortedSet.ofList ["cart/a.go", "order/b.go"] := by
  decide +kernel

end Umbrella

/-- The files of the boundaries at a threshold are covered at every lower one, too, so fewer files are orphaned there.
The boundaries themselves may be others: an umbrella comes back when the modules below it miss the threshold. -/
theorem select_covers_of_le :
    (∀ {R : Type} [Scalar R] [LawfulScalar R] (inv : Inventory) (candidates : List (Candidate R)) (low high : R),
      IsNumber high → Scalar.lt high low = false →
        (∀ p ∈ select inv high candidates, ∀ f ∈ p.2.files, ∃ q ∈ select inv low candidates, f ∈ q.2.files) ∧
          orphanedFiles inv ((select inv low candidates).map (·.2)) ⊆
            orphanedFiles inv ((select inv high candidates).map (·.2))) ∧
      ∃ (inv : Inventory) (candidates : List (Candidate Float)) (low high : Float),
        0 ≤ low ∧ low < high ∧ high ≤ 1 ∧
          ∃ p ∈ select inv high candidates, isUmbrella (dropUmbrellas (confident low candidates)) p.1 = true ∧
            ∀ q ∈ select inv low candidates, q.2.files ≠ p.2.files := by
  refine ⟨?_, {}, cartOrderAndShop, Scalar.decimal 3 1, Scalar.decimal 5 1, ?_, ?_, ?_, ?_⟩
  · intro R _ _ inv candidates low high hhigh hle
    refine ⟨fun p hp f hf => exists_selected_of_le hhigh hle hp hf, orphanedFiles_subset ?_⟩
    simp only [List.mem_map, forall_exists_index, and_imp, forall_apply_eq_imp_iff₂, exists_exists_and_eq_and]
    exact fun p hp f hf => exists_selected_of_le hhigh hle hp hf
  · decide +kernel
  · decide +kernel
  · decide +kernel
  · obtain ⟨s, hs, hfiles⟩ := exists_shop_mem_dropUmbrellas
    have hlow : s ∈ confident (Scalar.decimal 3 1) cartOrderAndShop :=
      confident_subset_of_le isNumber_half (by decide +kernel) _ (mem_dropUmbrellas_iff.1 hs).1
    refine ⟨(s.1, s.1.toBoundary {} s.2), mem_select_iff.2 ⟨s, hs, rfl⟩, ?_, ?_⟩
    · by_contra hkept
      exact shop_not_mem_dropUmbrellas s (mem_dropUmbrellas_iff.2 ⟨hlow, Bool.eq_false_iff.2 hkept⟩) hfiles
    · intro q hq heq
      obtain ⟨t, ht, rfl⟩ := mem_select_iff.1 hq
      refine shop_not_mem_dropUmbrellas t ht ?_
      rw [← hfiles]
      apply SortedSet.ext
      intro f
      rw [SortedSet.mem_def, SortedSet.mem_def]
      exact iff_of_eq (congrArg (f ∈ ·) heq)

theorem select_covers_of_le_cart :
    IsNumber (Scalar.decimal 5 1 : Float) ∧ Scalar.lt (Scalar.decimal 5 1 : Float) (Scalar.decimal 3 1) = false ∧
      ∀ p ∈ select {} (Scalar.decimal 5 1) cartOrderAndShop, ∀ f ∈ p.2.files,
        ∃ q ∈ select {} (Scalar.decimal 3 1) cartOrderAndShop, f ∈ q.2.files := by
  have hle : Scalar.lt (Scalar.decimal 5 1 : Float) (Scalar.decimal 3 1) = false := by decide +kernel
  exact ⟨isNumber_half, hle, (select_covers_of_le.1 {} cartOrderAndShop _ _ isNumber_half hle).1⟩

end Candidate

end Demarcation
