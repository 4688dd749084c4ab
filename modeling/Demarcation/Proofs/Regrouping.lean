import Demarcation.Proofs.ExactScalar
import Demarcation.Proofs.TracedMerge

namespace Demarcation

structure Gathers {R : Type} (group : List (Candidate R)) (c : Candidate R) : Prop where
  members : ∀ i, i ∈ c.members ↔ ∃ d ∈ group, i ∈ d.members
  files : ∀ f, f ∈ c.files ↔ ∃ d ∈ group, f ∈ d.files
  accesses : ∀ a, a ∈ c.accesses ↔ ∃ d ∈ group, a ∈ d.accesses
  keywords : ∀ k, k ∈ c.keywords ↔ ∃ d ∈ group, k ∈ d.keywords
  declared : c.declared = true ↔ ∃ d ∈ group, d.declared = true
  unchanged : ∀ d, group = [d] → c = d

theorem Gathers.mem_files {R : Type} {inputs : List (Candidate R)} {group : List Nat} {c d : Candidate R} {i : Nat}
    {f : String} (h : Gathers (group.filterMap (inputs[·]?)) c) (hi : i ∈ group) (hd : inputs[i]? = some d)
    (hf : f ∈ d.files) : f ∈ c.files :=
  (h.files f).2 ⟨d, List.mem_filterMap.2 ⟨i, hi, hd⟩, hf⟩

structure Averages (group : List (Candidate Rat)) (c : Candidate Rat) : Prop where
  bounded : 0 ≤ c.cohesion ∧ c.cohesion ≤ 1
  above : ∃ d ∈ group, d.cohesion ≤ c.cohesion
  below : ∃ d ∈ group, c.cohesion ≤ d.cohesion

/-- Groups of positions of `inputs` that make up `outputs`: each position is in one group, and each group begins before
all that the later groups hold. -/
structure Regroups {R : Type} (p : List (Candidate R) → Candidate R → Prop) (inputs outputs : List (Candidate R))
    (groups : List (List Nat)) : Prop where
  partition : groups.flatten.Perm (List.range inputs.length)
  nonempty : ∀ g ∈ groups, g ≠ []
  ordered : groups.Pairwise fun g h => ∃ i ∈ g, ∀ j ∈ h, i < j
  outputs : List.Forall₂ (fun g c => p (g.filterMap (inputs[·]?)) c) groups outputs

def Candidate.isKept {R : Type} (c : Candidate R) : Bool := !c.members.isEmpty || !c.files.isEmpty

structure InMergeOrder {R : Type} (maxCandidates : Int) (candidates working : List (Candidate R)) : Prop where
  perm : working.Perm (candidates.filter Candidate.isKept)
  unchanged : working.length ≤ maxCandidates → working = candidates.filter Candidate.isKept
  descending : maxCandidates < working.length → working.Pairwise fun c d => d.files.size ≤ c.files.size

theorem inMergeOrder_mergeOrder {R : Type} (maxCandidates : Int) (candidates : List (Candidate R)) :
    InMergeOrder maxCandidates candidates (Candidate.mergeOrder maxCandidates candidates) := by
  by_cases h : maxCandidates < (candidates.filter Candidate.isKept).length
  · have hsorted : Candidate.mergeOrder maxCandidates candidates =
        (candidates.filter Candidate.isKept).mergeSort fun c d => d.files.size ≤ c.files.size := if_pos h
    rw [hsorted]
    refine ⟨List.mergeSort_perm _ _, ?_, ?_⟩
    · intro hle
      rw [List.length_mergeSort] at hle
      exact absurd h (not_lt.2 hle)
    · intro _
      refine (List.pairwise_mergeSort ?_ ?_ _).imp of_decide_eq_true
      · intro c d e hcd hde
        exact decide_eq_true ((of_decide_eq_true hde).trans (of_decide_eq_true hcd))
      · intro c d
        simpa only [Bool.or_eq_true, decide_eq_true_eq] using Nat.le_total d.files.size c.files.size
  · have hkept : Candidate.mergeOrder maxCandidates candidates = candidates.filter Candidate.isKept := if_neg h
    rw [hkept]
    exact ⟨List.Perm.refl _, fun _ => rfl, fun hlt => absurd hlt h⟩

def KeptByCombine {R : Type} [Scalar R] (inv : Option Inventory) (p : List (Candidate R) → Candidate R → Prop) : Prop :=
  ∀ (x : List (Candidate R) × Candidate R) (xs : List (List (Candidate R) × Candidate R)),
    (∀ y ∈ x :: xs, y.1 ≠ [] ∧ p y.1 y.2) →
      p ((x :: xs).flatMap (·.1)) (Candidate.combine inv x.2 (xs.map (·.2)))

def Led (g : List Nat) : Prop := ∃ i, g.head? = some i ∧ ∀ j ∈ g, i ≤ j

structure Traces {R : Type} (p : List (Candidate R) → Candidate R → Prop) (inputs : List (Candidate R))
    (traced : List (Traced Nat R)) : Prop where
  partition : (traced.flatMap (·.origin)).Perm (List.range inputs.length)
  nonempty : ∀ t ∈ traced, t.origin ≠ []
  ordered : traced.Pairwise fun t u => ∃ i, t.origin.head? = some i ∧ ∀ j ∈ u.origin, i < j
  gathers : ∀ t ∈ traced, p (t.origin.filterMap (inputs[·]?)) t.candidate

namespace Traces

variable {R : Type} {p : List (Candidate R) → Candidate R → Prop} {inputs : List (Candidate R)}

theorem regroups {traced : List (Traced Nat R)} (h : Traces p inputs traced) :
    Regroups p inputs (traced.map (·.candidate)) (traced.map (·.origin)) := by
  refine ⟨?_, ?_, ?_, ?_⟩
  · rw [← List.flatMap_def]
    exact h.partition
  · intro g hg
    obtain ⟨t, ht, rfl⟩ := List.mem_map.1 hg
    exact h.nonempty t ht
  · rw [List.pairwise_map]
    apply h.ordered.imp
    rintro t u ⟨i, hi, hlt⟩
    exact ⟨i, List.mem_of_head? hi, hlt⟩
  · rw [List.forall₂_map_left_iff, List.forall₂_map_right_iff, List.forall₂_same]
    exact h.gathers

theorem start (hp : ∀ c ∈ inputs, p [c] c) :
    Traces p inputs (inputs.zipIdx.map fun x => ⟨[x.2], x.1⟩) := by
  refine ⟨?_, ?_, ?_, ?_⟩
  · rw [List.flatMap_map, ← List.map_eq_flatMap, List.zipIdx_map_snd, ← List.range_eq_range']
  · intro t ht
    obtain ⟨x, -, rfl⟩ := List.mem_map.1 ht
    exact List.cons_ne_nil _ _
  · have hlabels : (inputs.zipIdx.map (·.2)).Pairwise (· < ·) := by
      rw [List.zipIdx_map_snd]
      exact List.pairwise_lt_range'
    rw [List.pairwise_map] at hlabels ⊢
    apply hlabels.imp
    intro x y hxy
    refine ⟨x.2, rfl, ?_⟩
    intro j hj
    rwa [List.mem_singleton.1 hj]
  · intro t ht
    obtain ⟨⟨c, i⟩, hx, rfl⟩ := List.mem_map.1 ht
    have hi : inputs[i]? = some c := List.mk_mem_zipIdx_iff_getElem?.1 hx
    rw [List.filterMap_cons_some hi, List.filterMap_nil]
    exact hp c (List.mem_of_getElem? hi)

theorem filterMap_ne_nil {traced : List (Traced Nat R)} (h : Traces p inputs traced) {t : Traced Nat R}
    (ht : t ∈ traced) : t.origin.filterMap (inputs[·]?) ≠ [] := by
  obtain ⟨i, hi⟩ := List.exists_mem_of_ne_nil _ (h.nonempty t ht)
  have hlt : i < inputs.length := List.mem_range.1 (h.partition.subset (List.mem_flatMap.2 ⟨t, ht, hi⟩))
  exact List.ne_nil_of_mem (List.mem_filterMap.2 ⟨i, hi, List.getElem?_eq_getElem hlt⟩)

theorem combine [Scalar R] {inv : Option Inventory} (hp : KeptByCombine inv p) {traced : List (Traced Nat R)}
    (h : Traces p inputs traced) {t : Traced Nat R} {ts : List (Traced Nat R)} (ht : ∀ u ∈ t :: ts, u ∈ traced) :
    p ((Traced.combine inv t ts).origin.filterMap (inputs[·]?)) (Traced.combine inv t ts).candidate := by
  have hgroups : ∀ u ∈ t :: ts,
      u.origin.filterMap (inputs[·]?) ≠ [] ∧ p (u.origin.filterMap (inputs[·]?)) u.candidate :=
    fun u hu => ⟨h.filterMap_ne_nil (ht u hu), h.gathers u (ht u hu)⟩
  have hunion := hp (t.origin.filterMap (inputs[·]?), t.candidate)
    (ts.map fun u => (u.origin.filterMap (inputs[·]?), u.candidate)) ?_
  · simpa only [Traced.combine, List.flatMap_cons, List.filterMap_append, List.filterMap_flatMap, List.flatMap_map,
      List.map_map, Function.comp_def] using hunion
  · rw [List.forall_mem_cons, List.forall_mem_map]
    exact List.forall_mem_cons.1 hgroups

theorem sweepWith [Scalar R] {inv : Option Inventory} (hp : KeptByCombine inv p) (feature : Traced Nat R → Feature)
    {traced : List (Traced Nat R)} (h : Traces p inputs traced) :
    Traces p inputs (Feature.sweepWith feature (Traced.combine inv) traced).1 := by
  have hmem {g : Traced Nat R × List (Traced Nat R)} (hg : g ∈ Feature.sweep feature traced) :
      ∀ t ∈ g.1 :: g.2, t ∈ traced := Feature.mem_of_mem_sweep hg
  have hseed {g : Traced Nat R × List (Traced Nat R)} (hg : g ∈ Feature.sweep feature traced) : g.1.origin ≠ [] :=
    h.nonempty g.1 (hmem hg g.1 List.mem_cons_self)
  rw [Feature.sweepWith]
  refine ⟨?_, ?_, ?_, ?_⟩
  · rw [List.flatMap_map]
    simp only [Traced.combine]
    rw [← List.flatMap_assoc]
    exact ((Feature.sweep_perm _ traced).flatMap_right _).trans h.partition
  · rw [List.forall_mem_map]
    exact fun g hg => Traced.origin_combine_ne_nil inv (hseed hg) g.2
  · rw [List.pairwise_map]
    apply (Feature.pairwise_sweep h.ordered).2.imp_of_mem
    intro g g' hg hg' hgg'
    obtain ⟨i, hi, -⟩ := hgg' g'.1 List.mem_cons_self
    refine ⟨i, (Traced.head?_origin_combine inv (hseed hg) g.2).trans hi, ?_⟩
    intro j hj
    obtain ⟨t, ht, hjt⟩ := Traced.mem_origin_combine.1 hj
    obtain ⟨i', hi', hlt⟩ := hgg' t ht
    rw [Option.some.inj (hi.symm.trans hi')]
    exact hlt j hjt
  · rw [List.forall_mem_map]
    exact fun g hg => h.combine hp (hmem hg)

theorem led_sweepWith [Scalar R] {inv : Option Inventory} (feature : Traced Nat R → Feature)
    {traced : List (Traced Nat R)} (h : Traces p inputs traced) (hled : ∀ t ∈ traced, Led t.origin) :
    ∀ t ∈ (Feature.sweepWith feature (Traced.combine inv) traced).1, Led t.origin := by
  rw [Feature.sweepWith, List.forall_mem_map]
  intro g hg
  have hmem : ∀ t ∈ g.1 :: g.2, t ∈ traced := Feature.mem_of_mem_sweep hg
  have hseed := hmem g.1 List.mem_cons_self
  obtain ⟨i, hi, hle⟩ := hled g.1 hseed
  refine ⟨i, (Traced.head?_origin_combine inv (h.nonempty g.1 hseed) g.2).trans hi, ?_⟩
  intro j hj
  obtain ⟨t, ht, hjt⟩ := Traced.mem_origin_combine.1 hj
  rcases List.mem_cons.1 ht with rfl | ht
  · exact hle j hjt
  · obtain ⟨i', hi', hlt⟩ := (Feature.pairwise_sweep h.ordered).1 g hg t ht
    rw [Option.some.inj (hi.symm.trans hi')]
    exact (hlt j hjt).le

theorem rounds [Scalar R] {inv : Option Inventory} (hp : KeptByCombine inv p) (fuel : Nat)
    {traced : List (Traced Nat R)} (h : Traces p inputs traced) (hled : ∀ t ∈ traced, Led t.origin) :
    Traces p inputs (Traced.rounds inv fuel traced) ∧ ∀ t ∈ Traced.rounds inv fuel traced, Led t.origin := by
  apply Feature.sweepRounds_induction (p := fun l => Traces p inputs l ∧ ∀ t ∈ l, Led t.origin)
  · exact fun feature _ _ h => ⟨h.1.sweepWith hp feature, h.1.led_sweepWith feature h.2⟩
  · exact ⟨h, hled⟩

end Traces

section Combined

variable {R : Type}

theorem mem_unions_map {α : Type} [LT α] [DecidableLT α] [Ordered α] {field : Candidate R → SortedSet α}
    {group : List (Candidate R)} {a : α} :
    a ∈ SortedSet.unions (group.map field) ↔ ∃ d ∈ group, a ∈ field d := by
  simp only [SortedSet.mem_unions, List.mem_map, exists_exists_and_eq_and]

theorem exists_mem_flatMap_of_exists {q : Candidate R → Prop} {ys : List (List (Candidate R) × Candidate R)}
    (h : ∀ y ∈ ys, q y.2 → ∃ d ∈ y.1, q d) (hq : ∃ c ∈ ys.map (·.2), q c) : ∃ d ∈ ys.flatMap (·.1), q d := by
  obtain ⟨c, hc, hq⟩ := hq
  obtain ⟨y, hy, rfl⟩ := List.mem_map.1 hc
  obtain ⟨d, hd, hq⟩ := h y hy hq
  exact ⟨d, List.mem_flatMap.2 ⟨y, hy, hd⟩, hq⟩

theorem exists_mem_flatMap_iff {q : Candidate R → Prop} {ys : List (List (Candidate R) × Candidate R)}
    (h : ∀ y ∈ ys, q y.2 ↔ ∃ d ∈ y.1, q d) : (∃ c ∈ ys.map (·.2), q c) ↔ ∃ d ∈ ys.flatMap (·.1), q d := by
  refine ⟨exists_mem_flatMap_of_exists fun y hy => (h y hy).1, ?_⟩
  rintro ⟨d, hd, hq⟩
  obtain ⟨y, hy, hd⟩ := List.mem_flatMap.1 hd
  exact ⟨y.2, List.mem_map.2 ⟨y, hy, rfl⟩, (h y hy).2 ⟨d, hd, hq⟩⟩

variable [Scalar R]

theorem gathers_combine (inv : Option Inventory) (c : Candidate R) (cs : List (Candidate R)) :
    Gathers (c :: cs) (Candidate.combine inv c cs) := by
  cases cs with
  | nil =>
    rw [Candidate.combine_nil]
    constructor <;> simp
  | cons d ds =>
    refine ⟨fun _ => mem_unions_map, fun _ => mem_unions_map, fun _ => mem_unions_map, fun _ => mem_unions_map,
      List.find?_isSome, ?_⟩
    intro e he
    cases he

theorem keptByCombine_gathers (inv : Option Inventory) : KeptByCombine (R := R) inv Gathers := by
  intro x xs h
  have hc := gathers_combine inv x.2 (xs.map (·.2))
  rw [← List.map_cons] at hc
  refine ⟨?_, ?_, ?_, ?_, ?_, ?_⟩
  · exact fun i => (hc.members i).trans (exists_mem_flatMap_iff fun y hy => (h y hy).2.members i)
  · exact fun f => (hc.files f).trans (exists_mem_flatMap_iff fun y hy => (h y hy).2.files f)
  · exact fun a => (hc.accesses a).trans (exists_mem_flatMap_iff fun y hy => (h y hy).2.accesses a)
  · exact fun k => (hc.keywords k).trans (exists_mem_flatMap_iff fun y hy => (h y hy).2.keywords k)
  · exact hc.declared.trans (exists_mem_flatMap_iff fun y hy => (h y hy).2.declared)
  · intro d hd
    cases xs with
    | nil =>
      rw [List.flatMap_singleton] at hd
      rw [List.map_nil, Candidate.combine_nil]
      exact (h x List.mem_cons_self).2.unchanged d hd
    | cons y ys =>
      have hlen := congrArg List.length hd
      have hx := List.length_pos_iff.2 (h x List.mem_cons_self).1
      have hy := List.length_pos_iff.2 (h y (List.mem_cons_of_mem x List.mem_cons_self)).1
      simp only [List.flatMap_cons, List.length_append, List.length_cons, List.length_nil] at hlen
      omega

theorem cohesion_combine {inv : Option Inventory} (c : Candidate R) {cs : List (Candidate R)} (h : cs ≠ []) :
    (Candidate.combine inv c cs).cohesion = Scalar.clamp (Scalar.mean ((c :: cs).map (·.cohesion))) := by
  cases cs with
  | nil => exact absurd rfl h
  | cons d ds => rfl

theorem averages_combine (inv : Option Inventory) {c : Candidate Rat} {cs : List (Candidate Rat)}
    (h : ∀ d ∈ c :: cs, 0 ≤ d.cohesion ∧ d.cohesion ≤ 1) : Averages (c :: cs) (Candidate.combine inv c cs) := by
  by_cases hcs : cs = []
  · rw [hcs, Candidate.combine_nil]
    exact ⟨h c List.mem_cons_self, ⟨c, List.mem_cons_self, le_refl _⟩, ⟨c, List.mem_cons_self, le_refl _⟩⟩
  · have hne : (c :: cs).map (·.cohesion) ≠ [] := List.cons_ne_nil _ _
    obtain ⟨a, ha, hal⟩ := Scalar.exists_le_mean hne
    obtain ⟨b, hb, hbl⟩ := Scalar.exists_mean_le hne
    obtain ⟨d, hd, rfl⟩ := List.mem_map.1 ha
    obtain ⟨e, he, rfl⟩ := List.mem_map.1 hb
    have hzero := (h d hd).1.trans hal
    have hone := hbl.trans (h e he).2
    have heq : (Candidate.combine inv c cs).cohesion = Scalar.mean ((c :: cs).map (·.cohesion)) := by
      rw [cohesion_combine c hcs, Scalar.clamp_rat hzero hone]
    refine ⟨?_, ⟨d, hd, ?_⟩, ⟨e, he, ?_⟩⟩
    · rw [heq]
      exact ⟨hzero, hone⟩
    · rwa [heq]
    · rwa [heq]

theorem keptByCombine_averages (inv : Option Inventory) : KeptByCombine inv Averages := by
  intro x xs h
  have hbounded : ∀ d ∈ x.2 :: xs.map (·.2), 0 ≤ d.cohesion ∧ d.cohesion ≤ 1 := by
    rw [← List.map_cons (f := fun y : List (Candidate Rat) × Candidate Rat => y.2), List.forall_mem_map]
    exact fun y hy => (h y hy).2.bounded
  obtain ⟨hrange, habove, hbelow⟩ := averages_combine inv hbounded
  rw [← List.map_cons (f := fun y : List (Candidate Rat) × Candidate Rat => y.2)] at habove hbelow
  refine ⟨hrange, exists_mem_flatMap_of_exists ?_ habove, exists_mem_flatMap_of_exists ?_ hbelow⟩
  · intro y hy hle
    obtain ⟨d, hd, hdle⟩ := (h y hy).2.above
    exact ⟨d, hd, hdle.trans hle⟩
  · intro y hy hle
    obtain ⟨d, hd, hdle⟩ := (h y hy).2.below
    exact ⟨d, hd, hle.trans hdle⟩

theorem KeptByCombine.and {inv : Option Inventory} {p q : List (Candidate R) → Candidate R → Prop}
    (hp : KeptByCombine inv p) (hq : KeptByCombine inv q) : KeptByCombine inv fun g c => p g c ∧ q g c := by
  intro x xs h
  exact ⟨hp x xs fun y hy => ⟨(h y hy).1, (h y hy).2.1⟩, hq x xs fun y hy => ⟨(h y hy).1, (h y hy).2.2⟩⟩

end Combined

section Merged

variable {R : Type} [Scalar R] {p : List (Candidate R) → Candidate R → Prop}

theorem exists_traces_mergeAll {inv : Option Inventory} (maxCandidates : Int) {candidates : List (Candidate R)}
    (hp : KeptByCombine inv p) (hstart : ∀ c ∈ candidates, p [c] c) :
    ∃ traced : List (Traced Nat R), Traces p (Candidate.mergeOrder maxCandidates candidates) traced ∧
      (∀ t ∈ traced, Led t.origin) ∧ traced.map (·.candidate) = Candidate.mergeAll inv maxCandidates candidates := by
  have hinputs : ∀ c ∈ Candidate.mergeOrder maxCandidates candidates, p [c] c := by
    intro c hc
    have hperm := (inMergeOrder_mergeOrder maxCandidates candidates).perm
    exact hstart c (List.mem_of_mem_filter (hperm.subset hc))
  have hled : ∀ t ∈ (Candidate.mergeOrder maxCandidates candidates).zipIdx.map
      fun x => (⟨[x.2], x.1⟩ : Traced Nat R), Led t.origin := by
    rw [List.forall_mem_map]
    exact fun x _ => ⟨x.2, rfl, fun j hj => (List.mem_singleton.1 hj).ge⟩
  obtain ⟨htraces, hmerged⟩ := (Traces.start hinputs).rounds hp
    ((Candidate.mergeOrder maxCandidates candidates).length + 1) hled
  have hlist : (Candidate.mergeOrder maxCandidates candidates).zipIdx.map (·.1) =
      Candidate.mergeOrder maxCandidates candidates := List.zipIdx_map_fst 0 _
  refine ⟨_, htraces, hmerged, ?_⟩
  rw [Traced.rounds_map_candidate, List.map_map]
  simp only [Function.comp_def, hlist]
  rfl

theorem exists_regroups_mergeAll {inv : Option Inventory} (maxCandidates : Int) {candidates : List (Candidate R)}
    (hp : KeptByCombine inv p) (hstart : ∀ c ∈ candidates, p [c] c) :
    ∃ groups, Regroups p (Candidate.mergeOrder maxCandidates candidates)
      (Candidate.mergeAll inv maxCandidates candidates) groups := by
  obtain ⟨traced, htraces, -, hmerged⟩ := exists_traces_mergeAll maxCandidates hp hstart
  exact ⟨_, hmerged ▸ htraces.regroups⟩

def orderAndCart : List (Candidate Rat) := [
  { name := "order", files := SortedSet.ofList ["order/a.go", "order/b.go"], cohesion := 1 / 5 },
  { name := "cart", files := SortedSet.ofList ["order/a.go", "order/b.go", "order/c.go"], cohesion := 3 / 5 }]

/-- The merger loses, repeats and splits nothing: every merged candidate is the union of one group of candidates, and in
exact arithmetic its cohesion lies between theirs. Candidates are made with a cohesion between zero and one. -/
theorem mergeAll_regroups (inv : Option Inventory) (maxCandidates : Int) :
    (∀ {R : Type} [Scalar R] (candidates : List (Candidate R)),
      InMergeOrder maxCandidates candidates (Candidate.mergeOrder maxCandidates candidates) ∧
        ∃ groups, Regroups Gathers (Candidate.mergeOrder maxCandidates candidates)
          (Candidate.mergeAll inv maxCandidates candidates) groups) ∧
      ∀ candidates : List (Candidate Rat), (∀ c ∈ candidates, 0 ≤ c.cohesion ∧ c.cohesion ≤ 1) →
        ∃ groups, Regroups (fun g c => Gathers g c ∧ Averages g c) (Candidate.mergeOrder maxCandidates candidates)
          (Candidate.mergeAll inv maxCandidates candidates) groups := by
  refine ⟨?_, ?_⟩
  · intro R _ candidates
    refine ⟨inMergeOrder_mergeOrder maxCandidates candidates, ?_⟩
    exact exists_regroups_mergeAll maxCandidates (keptByCombine_gathers inv) fun c _ => gathers_combine inv c []
  · intro candidates hbounded
    apply exists_regroups_mergeAll maxCandidates ((keptByCombine_gathers inv).and (keptByCombine_averages inv))
    intro c hc
    refine ⟨gathers_combine inv c [], averages_combine inv ?_⟩
    intro d hd
    rw [List.mem_singleton.1 hd]
    exact hbounded c hc

theorem mergeAll_regroups_order_cart :
    (∀ c ∈ orderAndCart, 0 ≤ c.cohesion ∧ c.cohesion ≤ 1) ∧
      ∃ fused group, Candidate.mergeAll none 400 orderAndCart = [fused] ∧ group.Perm [0, 1] ∧
        Regroups (fun g c => Gathers g c ∧ Averages g c) (Candidate.mergeOrder 400 orderAndCart) [fused] [group] ∧
          fused.files = SortedSet.ofList ["order/a.go", "order/b.go", "order/c.go"] ∧ fused.cohesion = 2 / 5 := by
  have hbounded : ∀ c ∈ orderAndCart, 0 ≤ c.cohesion ∧ c.cohesion ≤ 1 := by decide +kernel
  have hmerged : (Candidate.mergeAll none 400 orderAndCart).map (fun c => (c.files, c.cohesion)) =
      [(SortedSet.ofList ["order/a.go", "order/b.go", "order/c.go"], 2 / 5)] := by decide +kernel
  obtain ⟨fused, hfused, hparts⟩ := List.map_eq_singleton_iff.1 hmerged
  obtain ⟨hfiles, hcohesion⟩ := Prod.mk.inj hparts
  obtain ⟨groups, hgroups⟩ := (mergeAll_regroups none 400).2 orderAndCart hbounded
  rw [hfused] at hgroups
  obtain ⟨group, rfl⟩ := List.length_eq_one_iff.1 hgroups.outputs.length_eq
  have hpartition := hgroups.partition
  rw [List.flatten_singleton] at hpartition
  exact ⟨hbounded, fused, group, hfused, hpartition, hgroups, hfiles, hcohesion⟩

end Merged

end Demarcation
