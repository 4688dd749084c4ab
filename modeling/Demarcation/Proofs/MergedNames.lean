import Mathlib.Data.List.Sort
import Demarcation.Proofs.MergedGroups

namespace Demarcation

open Text

variable {R : Type}

def IsKeyword (group : List (Candidate R)) (word : String) : Prop :=
  isMeaningful word = true ∧ ∃ c ∈ group, word ∈ c.keywords

/-- The name that a candidate has from a group, listed in the order of the candidates: that of the first declared one,
with its description; without one, a meaningful keyword; without any, the name of the first candidate. -/
structure NamedByRule (group : List (Candidate R)) (c : Candidate R) : Prop where
  declared : ∀ d, group.find? (·.declared) = some d → c.name = d.name ∧ c.description = d.description
  keyword : (∀ d ∈ group, d.declared = false) → 2 ≤ group.length → (∃ word, IsKeyword group word) →
    IsKeyword group c.name
  earliest : (∀ d ∈ group, d.declared = false) → (∀ word, ¬ IsKeyword group word) →
    ∃ d, group.head? = some d ∧ c.name = d.name

def LedByDeclared (group : List (Candidate R)) : Prop :=
  ∀ d ∈ group, d.declared = true → ∃ first, group.head? = some first ∧ first.declared = true

section Rule

theorem find?_eq_some_iff_of_ledByDeclared {group : List (Candidate R)} (h : LedByDeclared group) {d : Candidate R} :
    group.find? (·.declared) = some d ↔ group.head? = some d ∧ d.declared = true := by
  cases group with
  | nil => simp only [List.find?_nil, List.head?_nil, reduceCtorEq, false_and]
  | cons c cs =>
    rw [List.head?_cons, Option.some.injEq]
    constructor
    · intro hd
      have hdeclared : d.declared = true := List.find?_some hd
      obtain ⟨first, hfirst, hled⟩ := h d (List.mem_of_find?_eq_some hd) hdeclared
      obtain rfl := Option.some.inj hfirst
      rw [List.find?_cons_of_pos hled] at hd
      exact ⟨Option.some.inj hd, hdeclared⟩
    · rintro ⟨rfl, hdeclared⟩
      exact List.find?_cons_of_pos hdeclared

theorem isKeyword_congr {group group' : List (Candidate R)} (h : ∀ c, c ∈ group ↔ c ∈ group') (word : String) :
    IsKeyword group word ↔ IsKeyword group' word := by
  simp only [IsKeyword, h]

theorem NamedByRule.perm {group group' : List (Candidate R)} {c : Candidate R} (h : NamedByRule group c)
    (hled : LedByDeclared group) (hperm : group.Perm group') (hhead : group.head? = group'.head?) :
    NamedByRule group' c := by
  have hled' : LedByDeclared group' := fun d hd => hhead ▸ hled d (hperm.mem_iff.2 hd)
  have hword := isKeyword_congr fun d => hperm.mem_iff (a := d)
  refine ⟨?_, ?_, ?_⟩
  · intro d hd
    rw [find?_eq_some_iff_of_ledByDeclared hled', ← hhead, ← find?_eq_some_iff_of_ledByDeclared hled] at hd
    exact h.declared d hd
  · intro hnone hlength
    simp only [← hword]
    exact h.keyword (fun d hd => hnone d (hperm.mem_iff.1 hd)) (hperm.length_eq ▸ hlength)
  · intro hnone
    simp only [← hword, ← hhead]
    exact h.earliest fun d hd => hnone d (hperm.mem_iff.1 hd)

end Rule

namespace Candidate

variable [Scalar R]

section Scores

theorem mem_addScore_iff {weight : R} {scores : List (String × R)} {keyword word : String} :
    word ∈ (addScore weight scores keyword).map (·.1) ↔ word ∈ scores.map (·.1) ∨ word = keyword := by
  induction scores with
  | nil => simp only [addScore, List.map_cons, List.map_nil, List.mem_singleton, List.not_mem_nil, false_or]
  | cons s scores ih =>
    rw [addScore]
    split
    · rename_i heq
      rw [← beq_iff_eq.1 heq, List.map_cons, List.map_cons, List.mem_cons]
      tauto
    · rw [List.map_cons, List.map_cons, List.mem_cons, List.mem_cons, ih, or_assoc]

theorem mem_foldl_addScore_iff {weight : R} {words : List String} {scores : List (String × R)} {word : String} :
    word ∈ (words.foldl (addScore weight) scores).map (·.1) ↔ word ∈ scores.map (·.1) ∨ word ∈ words := by
  induction words generalizing scores with
  | nil => simp only [List.foldl_nil, List.not_mem_nil, or_false]
  | cons w words ih => rw [List.foldl_cons, ih, mem_addScore_iff, List.mem_cons, or_assoc]

theorem mem_keywordScores_iff {group : List (Candidate R)} {word : String} :
    word ∈ (keywordScores group).map (·.1) ↔ IsKeyword group word := by
  suffices h : ∀ scores : List (String × R), word ∈ (group.foldl (fun scores c =>
      (c.keywords.toList.filter isMeaningful).foldl (addScore (Scalar.ofNat 1 + c.cohesion)) scores) scores).map
        (·.1) ↔ word ∈ scores.map (·.1) ∨ IsKeyword group word by
    simpa only [keywordScores, List.map_nil, List.not_mem_nil, false_or] using h []
  induction group with
  | nil =>
    simp only [List.foldl_nil, IsKeyword, List.not_mem_nil, false_and, exists_false, and_false, or_false, implies_true]
  | cons c cs ih =>
    intro scores
    have hkeyword : IsKeyword (c :: cs) word ↔
        word ∈ c.keywords.toList ∧ isMeaningful word = true ∨ IsKeyword cs word := by
      rw [IsKeyword, List.exists_mem_cons_iff, and_or_left]
      exact or_congr_left and_comm
    rw [List.foldl_cons, ih, mem_foldl_addScore_iff, List.mem_filter, hkeyword, or_assoc]

end Scores

section Name

variable {first : Candidate R} {rest : List (Candidate R)}

theorem foldl_ite_mem {α : Type} (better : α → α → Bool) (best : α) (others : List α) :
    others.foldl (fun b c => if better b c then c else b) best ∈ best :: others := by
  induction others generalizing best with
  | nil => exact List.mem_singleton_self best
  | cons c others ih =>
    rw [List.foldl_cons]
    split
    · exact List.mem_cons_of_mem _ (ih c)
    · exact List.mem_cons.2 ((List.mem_cons.1 (ih best)).imp_right (List.mem_cons_of_mem c))

theorem isKeyword_mergedName (hnone : ∀ d ∈ first :: rest, d.declared = false)
    (hword : ∃ word, IsKeyword (first :: rest) word) : IsKeyword (first :: rest) (mergedName first rest) := by
  have hfind : (first :: rest).find? (·.declared) = none :=
    List.find?_eq_none.2 fun d hd => Bool.eq_false_iff.1 (hnone d hd)
  obtain ⟨word, hword⟩ := hword
  rw [← mem_keywordScores_iff] at hword
  rw [mergedName, hfind]
  cases hscores : keywordScores (first :: rest) with
  | nil =>
    rw [hscores] at hword
    exact absurd hword List.not_mem_nil
  | cons best others =>
    rw [← mem_keywordScores_iff, hscores]
    exact List.mem_map_of_mem (foldl_ite_mem _ best others)

theorem mergedName_of_not_isKeyword (hnone : ∀ d ∈ first :: rest, d.declared = false)
    (hword : ∀ word, ¬ IsKeyword (first :: rest) word) : mergedName first rest = first.name := by
  have hfind : (first :: rest).find? (·.declared) = none :=
    List.find?_eq_none.2 fun d hd => Bool.eq_false_iff.1 (hnone d hd)
  have hscores : keywordScores (first :: rest) = [] := by
    rw [← List.map_eq_nil_iff (f := fun s : String × R => s.1), List.eq_nil_iff_forall_not_mem]
    exact fun word h => hword word (mem_keywordScores_iff.1 h)
  rw [mergedName, hfind, hscores]

end Name

end Candidate

section Groups

variable {xs : List (List (Candidate R) × Candidate R)}

theorem isKeyword_flatMap_iff (h : ∀ x ∈ xs, Gathers x.1 x.2) (word : String) :
    IsKeyword (xs.map (·.2)) word ↔ IsKeyword (xs.flatMap (·.1)) word := by
  apply and_congr_right
  intro _
  exact exists_mem_flatMap_iff fun x hx => (h x hx).keywords word

theorem not_declared_of_flatMap (h : ∀ x ∈ xs, Gathers x.1 x.2)
    (hnone : ∀ d ∈ xs.flatMap (·.1), d.declared = false) : ∀ c ∈ xs.map (·.2), c.declared = false := by
  rw [List.forall_mem_map]
  intro x hx
  rw [Bool.eq_false_iff, Ne, (h x hx).declared]
  rintro ⟨d, hd, hdeclared⟩
  exact Bool.eq_false_iff.1 (hnone d (List.mem_flatMap.2 ⟨x, hx, hd⟩)) hdeclared

variable [Scalar R]

theorem keptByCombine_namedByRule (inv : Option Inventory) :
    KeptByCombine (R := R) inv fun group c => Gathers group c ∧ (LedByDeclared group → NamedByRule group c) := by
  intro x xs h
  have hgathers : ∀ y ∈ x :: xs, Gathers y.1 y.2 := fun y hy => (h y hy).2.1
  refine ⟨keptByCombine_gathers inv x xs fun y hy => ⟨(h y hy).1, hgathers y hy⟩, ?_⟩
  intro hled
  obtain ⟨hne, hx, hnamed⟩ := h x List.mem_cons_self
  have hhead : ((x :: xs).flatMap (·.1)).head? = x.1.head? := by
    rw [List.flatMap_cons, List.head?_append_of_ne_nil _ hne]
  have hsub : ∀ d ∈ x.1, d ∈ (x :: xs).flatMap (·.1) := fun d hd => List.mem_flatMap.2 ⟨x, List.mem_cons_self, hd⟩
  have hxled : LedByDeclared x.1 := fun d hd => hhead ▸ hled d (hsub d hd)
  cases xs with
  | nil =>
    rw [List.flatMap_singleton, List.map_nil, Candidate.combine_nil]
    exact hnamed hxled
  | cons y ys =>
    refine ⟨?_, ?_, ?_⟩
    · intro d hd
      rw [find?_eq_some_iff_of_ledByDeclared hled, hhead, ← find?_eq_some_iff_of_ledByDeclared hxled] at hd
      have hdeclared : x.2.declared = true := hx.declared.2 ⟨d, List.mem_of_find?_eq_some hd, List.find?_some hd⟩
      obtain ⟨hname, hdescription⟩ := (hnamed hxled).declared d hd
      obtain ⟨hname', hdescription'⟩ : (Candidate.combine inv x.2 ((y :: ys).map (·.2))).name = x.2.name ∧ _ :=
        Candidate.named_combine (List.find?_cons_of_pos hdeclared)
      exact ⟨hname'.trans hname, hdescription'.trans hdescription⟩
    · intro hnone _ hword
      have hnone' := not_declared_of_flatMap hgathers hnone
      simp only [← isKeyword_flatMap_iff hgathers] at hword ⊢
      exact Candidate.isKeyword_mergedName hnone' hword
    · intro hnone hword
      have hnone' := not_declared_of_flatMap hgathers hnone
      obtain ⟨d, hd, hname⟩ := (hnamed hxled).earliest (fun d hd => hnone d (hsub d hd))
        fun word hk => hword word ⟨hk.1, hk.2.imp fun d hd => ⟨hsub d hd.1, hd.2⟩⟩
      simp only [← isKeyword_flatMap_iff hgathers] at hword
      exact ⟨d, hhead.trans hd, (Candidate.mergedName_of_not_isKeyword hnone' hword).trans hname⟩

end Groups

section Sorted

variable {p q : List (Candidate R) → Candidate R → Prop} {inputs : List (Candidate R)} {traced : List (Traced Nat R)}

theorem head?_mergeSort {g : List Nat} (h : Led g) : (g.mergeSort (· ≤ ·)).head? = g.head? := by
  obtain ⟨i, hi, hle⟩ := h
  have hperm := List.mergeSort_perm g (· ≤ ·)
  have hmem : i ∈ g.mergeSort (· ≤ ·) := hperm.mem_iff.2 (List.mem_of_head? hi)
  have hsorted : (g.mergeSort (· ≤ ·)).Pairwise (· ≤ ·) := List.pairwise_mergeSort' (· ≤ ·) g
  rw [hi]
  cases hg : g.mergeSort (· ≤ ·) with
  | nil => exact absurd (hg ▸ hmem) List.not_mem_nil
  | cons j js =>
    have hij : i ≤ j := hle j (hperm.mem_iff.1 (hg ▸ List.mem_cons_self))
    have hji : j ≤ i := by
      rcases List.mem_cons.1 (hg ▸ hmem) with rfl | hmem
      · exact le_refl _
      · exact (List.pairwise_cons.1 (hg ▸ hsorted)).1 i hmem
    rw [List.head?_cons, le_antisymm hij hji]

theorem Traces.sort (h : Traces p inputs traced) (hled : ∀ t ∈ traced, Led t.origin)
    (hq : ∀ t ∈ traced, q ((t.origin.mergeSort (· ≤ ·)).filterMap (inputs[·]?)) t.candidate) :
    Traces q inputs (traced.map fun t => ⟨t.origin.mergeSort (· ≤ ·), t.candidate⟩) := by
  refine ⟨?_, ?_, ?_, ?_⟩
  · rw [List.flatMap_map]
    exact (List.Perm.flatMap_left traced fun t _ => List.mergeSort_perm t.origin _).trans h.partition
  · rw [List.forall_mem_map]
    intro t ht hnil
    have hperm := List.mergeSort_perm t.origin (· ≤ ·)
    rw [show t.origin.mergeSort (· ≤ ·) = [] from hnil] at hperm
    exact h.nonempty t ht (List.nil_perm.1 hperm)
  · rw [List.pairwise_map]
    apply h.ordered.imp_of_mem
    rintro t u ht - ⟨i, hi, hlt⟩
    refine ⟨i, (head?_mergeSort (hled t ht)).trans hi, ?_⟩
    intro j hj
    exact hlt j ((List.mergeSort_perm u.origin _).mem_iff.1 hj)
  · rw [List.forall_mem_map]
    exact hq

theorem Traces.pairwise_lt (h : Traces p inputs traced) {t : Traced Nat R} (ht : t ∈ traced) :
    (t.origin.mergeSort (· ≤ ·)).Pairwise (· < ·) := by
  have hall : (traced.flatMap (·.origin)).Nodup := h.partition.nodup_iff.2 List.nodup_range
  have hnodup : (t.origin.mergeSort (· ≤ ·)).Nodup :=
    (List.mergeSort_perm t.origin _).nodup_iff.2 ((List.nodup_flatMap.1 hall).1 t ht)
  refine ((List.pairwise_mergeSort' (· ≤ ·) t.origin).and hnodup).imp ?_
  rintro i j ⟨hle, hne⟩
  exact lt_of_le_of_ne hle hne

theorem Traces.head?_filterMap (h : Traces p inputs traced) {t : Traced Nat R} (ht : t ∈ traced) {i : Nat}
    {g : List Nat} (hg : g.Perm t.origin) (hi : g.head? = some i) :
    (g.filterMap (inputs[·]?)).head? = inputs[i]? := by
  obtain ⟨is, rfl⟩ : ∃ is, g = i :: is := List.head?_eq_some_iff.1 hi
  have hmem : i ∈ t.origin := hg.mem_iff.1 List.mem_cons_self
  have hlt : i < inputs.length := List.mem_range.1 (h.partition.subset (List.mem_flatMap.2 ⟨t, ht, hmem⟩))
  have hget := List.getElem?_eq_getElem hlt
  rw [List.filterMap_cons_some hget, List.head?_cons, hget]

theorem Gathers.perm {group group' : List (Candidate R)} {c : Candidate R} (h : Gathers group c)
    (hperm : group.Perm group') : Gathers group' c := by
  refine ⟨?_, ?_, ?_, ?_, ?_, ?_⟩
  · simpa only [hperm.mem_iff] using h.members
  · simpa only [hperm.mem_iff] using h.files
  · simpa only [hperm.mem_iff] using h.accesses
  · simpa only [hperm.mem_iff] using h.keywords
  · simpa only [hperm.mem_iff] using h.declared
  · rintro d rfl
    exact h.unchanged d (List.perm_singleton.1 hperm)

end Sorted

section Named

variable {inputs : List (Candidate R)}

theorem declared_of_le (h : inputs.Pairwise fun c d => d.declared = true → c.declared = true) {i j : Nat} (hij : i ≤ j)
    {d : Candidate R} (hd : inputs[j]? = some d) (hdeclared : d.declared = true) :
    ∃ c, inputs[i]? = some c ∧ c.declared = true := by
  obtain ⟨hj, rfl⟩ := List.getElem?_eq_some_iff.1 hd
  rcases Nat.eq_or_lt_of_le hij with rfl | hlt
  · exact ⟨_, hd, hdeclared⟩
  · exact ⟨_, List.getElem?_eq_getElem (hlt.trans hj), List.pairwise_iff_getElem.1 h i j _ hj hlt hdeclared⟩

theorem namedByRule_singleton (c : Candidate R) : NamedByRule [c] c := by
  refine ⟨?_, ?_, ?_⟩
  · intro d hd
    obtain rfl := List.mem_singleton.1 (List.mem_of_find?_eq_some hd)
    exact ⟨rfl, rfl⟩
  · intro _ hlength
    rw [List.length_singleton] at hlength
    exact absurd hlength (by decide)
  · exact fun _ _ => ⟨c, rfl, rfl⟩

theorem Traces.namedByRule {p : List (Candidate R) → Candidate R → Prop} {traced : List (Traced Nat R)}
    (h : Traces p inputs traced) (hfirst : inputs.Pairwise fun c d => d.declared = true → c.declared = true)
    {t : Traced Nat R} (ht : t ∈ traced) (hled : Led t.origin)
    (hnamed : LedByDeclared (t.origin.filterMap (inputs[·]?)) →
      NamedByRule (t.origin.filterMap (inputs[·]?)) t.candidate) :
    NamedByRule ((t.origin.mergeSort (· ≤ ·)).filterMap (inputs[·]?)) t.candidate := by
  obtain ⟨i, hi, hle⟩ := hled
  have hperm := List.mergeSort_perm t.origin (· ≤ ·)
  have hhead := h.head?_filterMap ht (List.Perm.refl _) hi
  have hhead' := h.head?_filterMap ht hperm ((head?_mergeSort ⟨i, hi, hle⟩).trans hi)
  have hleads : LedByDeclared (t.origin.filterMap (inputs[·]?)) := by
    intro d hd hdeclared
    obtain ⟨j, hj, hget⟩ := List.mem_filterMap.1 hd
    rw [hhead]
    exact declared_of_le hfirst (hle j hj) hget hdeclared
  exact (hnamed hleads).perm hleads (hperm.filterMap _).symm (hhead.trans hhead'.symm)

variable [Scalar R]

/-- If the declared candidates come first, each merged candidate is named by the rule, in however many passes it was
made. -/
theorem mergeAll_named (inv : Option Inventory) {maxCandidates : Int} {candidates : List (Candidate R)}
    (hcount : candidates.length ≤ maxCandidates)
    (hfirst : candidates.Pairwise fun c d => d.declared = true → c.declared = true) :
    ∃ groups, Regroups (fun group c => Gathers group c ∧ NamedByRule group c) (candidates.filter Candidate.isKept)
        (Candidate.mergeAll inv maxCandidates candidates) groups ∧ ∀ g ∈ groups, g.Pairwise (· < ·) := by
  have horder := inMergeOrder_mergeOrder maxCandidates candidates
  have hlength := List.length_filter_le Candidate.isKept candidates
  have hkept := horder.unchanged (by rw [horder.perm.length_eq]; omega)
  have hstart : ∀ c ∈ candidates, Gathers [c] c ∧ (LedByDeclared [c] → NamedByRule [c] c) :=
    fun c _ => ⟨gathers_combine inv c [], fun _ => namedByRule_singleton c⟩
  obtain ⟨traced, htraces, hled, hmerged⟩ :=
    exists_traces_mergeAll maxCandidates (keptByCombine_namedByRule inv) hstart
  rw [hkept] at htraces
  have hsorted : Traces (fun group c => Gathers group c ∧ NamedByRule group c) (candidates.filter Candidate.isKept)
      (traced.map fun t => ⟨t.origin.mergeSort (· ≤ ·), t.candidate⟩) := by
    refine htraces.sort hled ?_
    intro t ht
    obtain ⟨hgathers, hnamed⟩ := htraces.gathers t ht
    exact ⟨hgathers.perm ((List.mergeSort_perm t.origin _).filterMap _).symm,
      htraces.namedByRule (hfirst.filter _) ht (hled t ht) hnamed⟩
  have hregroups := hsorted.regroups
  simp only [List.map_map, Function.comp_def, hmerged] at hregroups
  refine ⟨_, hregroups, ?_⟩
  rw [List.forall_mem_map]
  exact fun t ht => htraces.pairwise_lt ht

def billingAndOrders : List (Candidate Rat) := [
  { name := "billing", files := SortedSet.ofList ["billing/a.go", "billing/b.go"], cohesion := 1, declared := true,
    description := "Invoices and payments" },
  { name := "order", files := SortedSet.ofList ["order/a.go", "order/b.go"],
    keywords := SortedSet.ofList ["order"], cohesion := 1 / 2 },
  { name := "invoice", files := SortedSet.ofList ["billing/a.go", "billing/b.go", "billing/c.go"],
    keywords := SortedSet.ofList ["invoice"], cohesion := 1 / 5 },
  { name := "cart", files := SortedSet.ofList ["order/a.go", "order/b.go", "order/c.go"],
    keywords := SortedSet.ofList ["cart"], cohesion := 3 / 5 }]

theorem eq_filter_range {group : List Nat} {n : Nat} {p : Nat → Bool} (hsorted : group.Pairwise (· < ·))
    (h : ∀ i, i ∈ group ↔ i < n ∧ p i = true) : group = (List.range n).filter p := by
  have hrange : ((List.range n).filter p).Pairwise (· < ·) := List.pairwise_lt_range.filter p
  have hperm : group.Perm ((List.range n).filter p) := by
    refine (List.perm_ext_iff_of_nodup (hsorted.imp Nat.ne_of_lt) (hrange.imp Nat.ne_of_lt)).2 fun i => ?_
    rw [h, List.mem_filter, List.mem_range]
  exact hperm.eq_of_pairwise (fun a b _ _ hab hba => absurd (hab.trans hba) (Nat.lt_irrefl a)) hsorted hrange

theorem mergeAll_named_billing_orders :
    (billingAndOrders.length ≤ (400 : Int) ∧
      billingAndOrders.Pairwise fun c d => d.declared = true → c.declared = true) ∧
      ∃ billing order, Candidate.mergeAll none 400 billingAndOrders = [billing, order] ∧
        Regroups (fun group c => Gathers group c ∧ NamedByRule group c)
          (billingAndOrders.filter Candidate.isKept) [billing, order] [[0, 2], [1, 3]] ∧
            billing.name = "billing" ∧ billing.description = "Invoices and payments" ∧ order.name = "cart" := by
  have hcount : billingAndOrders.length ≤ (400 : Int) := by decide
  have hfirst : billingAndOrders.Pairwise fun c d => d.declared = true → c.declared = true := by decide
  have hmerged : (Candidate.mergeAll none 400 billingAndOrders).map (fun c => (c.files.toList, c.name)) =
      [(["billing/a.go", "billing/b.go", "billing/c.go"], "billing"),
        (["order/a.go", "order/b.go", "order/c.go"], "cart")] := by decide +kernel
  obtain ⟨billing, rest, hall, hbilling, hrest⟩ := List.map_eq_cons_iff.1 hmerged
  obtain ⟨order, rfl, horder⟩ := List.map_eq_singleton_iff.1 hrest
  obtain ⟨groups, hgroups, hsorted⟩ := mergeAll_named none hcount hfirst
  rw [hall] at hgroups
  have hkept : billingAndOrders.filter Candidate.isKept = billingAndOrders := List.filter_eq_self.2 (by decide)
  have houtputs := hgroups.outputs
  rw [hkept] at houtputs
  obtain ⟨g, _, hg, hrest, rfl⟩ := List.forall₂_cons_right_iff.1 houtputs
  obtain ⟨g', _, hg', hnil, rfl⟩ := List.forall₂_cons_right_iff.1 hrest
  obtain rfl := List.forall₂_nil_right_iff.1 hnil
  have hmem (i : Nat) : i ∈ g ∨ i ∈ g' ↔ i < 4 := by
    have hpartition := hgroups.partition.mem_iff (a := i)
    rw [hkept, List.mem_range, show billingAndOrders.length = 4 from rfl] at hpartition
    simpa using hpartition
  -- A candidate is in the group of the only merged one that has its files.
  have hnot (i : Nat) (hi : i = 1 ∨ i = 3) : i ∉ g := by
    intro h
    have hfile : "order/a.go" ∈ billing.files := by
      rcases hi with rfl | rfl
      · exact hg.1.mem_files h rfl (by decide)
      · exact hg.1.mem_files h rfl (by decide)
    rw [SortedSet.mem_def, (Prod.mk.inj hbilling).1] at hfile
    revert hfile
    decide
  have hnot' (i : Nat) (hi : i = 0 ∨ i = 2) : i ∉ g' := by
    intro h
    have hfile : "billing/a.go" ∈ order.files := by
      rcases hi with rfl | rfl
      · exact hg'.1.mem_files h rfl (by decide)
      · exact hg'.1.mem_files h rfl (by decide)
    rw [SortedSet.mem_def, (Prod.mk.inj horder).1] at hfile
    revert hfile
    decide
  have hg₁ : g = [0, 2] := by
    refine eq_filter_range (n := 4) (p := fun i => i % 2 = 0) (hsorted g (by simp)) fun i => ?_
    grind
  have hg₂ : g' = [1, 3] := by
    refine eq_filter_range (n := 4) (p := fun i => i % 2 = 1) (hsorted g' (by simp)) fun i => ?_
    grind
  subst hg₁ hg₂
  have hdescription := (hg.2.declared _ rfl).2
  exact ⟨⟨hcount, hfirst⟩, billing, order, hall, hgroups, (Prod.mk.inj hbilling).2, hdescription, (Prod.mk.inj horder).2⟩

end Named

end Demarcation
