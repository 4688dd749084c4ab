import Mathlib.Data.Finset.Card
import Mathlib.Data.Finset.Range
import Demarcation.Proofs.OverlapCounting
import Demarcation.Absorption

/-!
A group that looks only at queued positions absorbs the same positions as one that scans all later ones
(`groups_eq_plainGroups`). The queue is behind the scan in one case: an absorbed position brings a name of a position
that the scan has passed. Such a late position shared no name with the group before, so it is not absorbed.
-/

namespace Demarcation.Feature

variable {features : Array Feature} {area : String} {seed : Nat}

theorem mem_carriers {name : String} {j : Nat} :
    j ∈ carriers features area name ↔ ∃ f, features[j]? = some f ∧ f.area = some area ∧ name ∈ f.names := by
  simp only [carriers, List.mem_filter, List.mem_range, Option.any_eq_true, Bool.and_eq_true, beq_iff_eq,
    decide_eq_true_eq]
  constructor
  · rintro ⟨-, h⟩
    exact h
  · rintro ⟨f, hf, h⟩
    exact ⟨(Array.getElem?_eq_some_iff.1 hf).1, f, hf, h⟩

structure Queues (seed : Nat) (p : Nat → Prop) (g g' : Growth) : Prop where
  names : g'.names = g.names
  absorbed : g'.absorbed = g.absorbed
  seen : ∀ j, j ∈ g'.seen ↔ j ∈ g.seen ∨ seed < j ∧ p j
  queue : ∀ j, j ∈ g'.queue ↔ j ∈ g.queue ∨ j ∉ g.seen ∧ seed < j ∧ p j
  ascending : g.queue.Pairwise (· < ·) → g'.queue.Pairwise (· < ·)

theorem Queues.none {p : Nat → Prop} (hp : ∀ j, ¬ p j) (g : Growth) : Queues seed p g g := by
  refine ⟨rfl, rfl, ?_, ?_, id⟩ <;> intro j <;> simp only [hp, and_false, or_false]

theorem Queues.trans {p q : Nat → Prop} {g g' g'' : Growth} (h : Queues seed p g g') (h' : Queues seed q g' g'') :
    Queues seed (fun j => p j ∨ q j) g g'' := by
  refine ⟨h'.names.trans h.names, h'.absorbed.trans h.absorbed, ?_, ?_, h'.ascending ∘ h.ascending⟩
  · intro j
    rw [h'.seen, h.seen]
    tauto
  · intro j
    rw [h'.queue, h.queue, h.seen]
    tauto

theorem queues_enqueue (seed : Nat) (g : Growth) (j : Nat) : Queues seed (· = j) g (enqueue seed g j) := by
  by_cases hj : seed < j ∧ j ∉ g.seen
  · rw [enqueue, if_pos hj]
    refine ⟨rfl, rfl, ?_, ?_, SortedSet.pairwise_place j⟩
    · intro k
      rw [List.mem_cons, or_comm]
      exact or_congr_right ⟨fun hk => ⟨hk ▸ hj.1, hk⟩, And.right⟩
    · intro k
      rw [SortedSet.mem_place, or_comm]
      exact or_congr_right ⟨fun hk => ⟨hk ▸ hj.2, hk ▸ hj.1, hk⟩, fun hk => hk.2.2⟩
  · rw [enqueue, if_neg hj]
    refine ⟨rfl, rfl, ?_, ?_, id⟩
    · intro k
      refine ⟨Or.inl, ?_⟩
      rintro (hk | ⟨hs, rfl⟩)
      · exact hk
      · exact not_not.1 fun hk => hj ⟨hs, hk⟩
    · intro k
      refine ⟨Or.inl, ?_⟩
      rintro (hk | ⟨hn, hs, rfl⟩)
      · exact hk
      · exact absurd ⟨hs, hn⟩ hj

theorem queues_foldl {α : Type} {p : α → Nat → Prop} {step : Growth → α → Growth}
    (hstep : ∀ g a, Queues seed (p a) g (step g a)) (l : List α) (g : Growth) :
    Queues seed (fun j => ∃ a ∈ l, p a j) g (l.foldl step g) := by
  induction l generalizing g with
  | nil => exact Queues.none (fun j ⟨a, ha, _⟩ => List.not_mem_nil ha) g
  | cons a as ih =>
    simpa only [List.foldl_cons, List.mem_cons, exists_eq_or_imp] using (hstep g a).trans (ih (step g a))

variable (features area seed) in
theorem queues_enqueueCarriers (g : Growth) (names : List String) :
    Queues seed (fun j => ∃ name ∈ names, j ∈ carriers features area name) g
      (enqueueCarriers features area seed g names) := by
  apply queues_foldl
  intro g name
  simpa only [exists_eq_right'] using queues_foldl (queues_enqueue seed) (carriers features area name) g

structure Pending (features : Array Feature) (area : String) (seed p : Nat) (g : Growth) : Prop where
  ascending : g.queue.Pairwise (· < ·)
  seen_of_queue : ∀ j ∈ g.queue, j ∈ g.seen
  behind : ∀ j ∈ g.queue, seed < j ∧ ∃ f, features[j]? = some f ∧ f.area = some area
  /-- Whatever shares a name with the group has been seen. -/
  reached : ∀ j, seed < j → ∀ name ∈ g.names, j ∈ carriers features area name → j ∈ g.seen
  /-- What has been seen ahead of the scan is in the queue. -/
  ahead : ∀ j ∈ g.seen, p < j → j ∈ g.queue
  /-- What comes late into the queue does not overlap the group. -/
  late : ∀ j ∈ g.queue, j ≤ p → ∀ f, features[j]? = some f → g.names.overlapsHalf f.names = false
  seed_le : seed ≤ p

def untaken (size : Nat) (g : Growth) : Finset Nat :=
  (Finset.range size).filter fun j => j ∉ g.seen ∨ j ∈ g.queue

theorem Pending.lt_size {p j : Nat} {g : Growth} (h : Pending features area seed p g) (hj : j ∈ g.queue) :
    j < features.size := by
  obtain ⟨-, f, hf, -⟩ := h.behind j hj
  exact (Array.getElem?_eq_some_iff.1 hf).1

theorem Pending.queue_eq_nil {p : Nat} {g : Growth} (h : Pending features area seed p g)
    (hcard : (untaken features.size g).card = 0) : g.queue = [] := by
  rw [List.eq_nil_iff_forall_not_mem]
  intro j hj
  have hmem : j ∈ untaken features.size g :=
    Finset.mem_filter.2 ⟨Finset.mem_range.2 (h.lt_size hj), Or.inr hj⟩
  rw [Finset.card_eq_zero.1 hcard] at hmem
  exact Finset.notMem_empty j hmem

theorem Pending.not_overlapsHalf {p : Nat} {g : Growth} (h : Pending features area seed p g) {j : Nat} (hp : p < j)
    (hj : j ∉ g.queue) {f : Feature} (hf : features[j]? = some f) (ha : f.area = some area) :
    g.names.overlapsHalf f.names = false := by
  apply SortedSet.not_overlapsHalf_of_disjoint
  intro name hg hn
  apply hj
  apply h.ahead j _ hp
  exact h.reached j (Nat.lt_of_le_of_lt h.seed_le hp) name hg (mem_carriers.2 ⟨f, hf, ha, hn⟩)

theorem Pending.skip {p j : Nat} {queue : List Nat} {g : Growth} (h : Pending features area seed p g)
    (hq : g.queue = j :: queue) (hj : j ≤ p) : Pending features area seed p { g with queue } := by
  have hsub : ∀ k ∈ queue, k ∈ g.queue := fun k hk => hq ▸ List.mem_cons_of_mem j hk
  refine ⟨?_, fun k hk => h.seen_of_queue k (hsub k hk), fun k hk => h.behind k (hsub k hk), h.reached, ?_,
    fun k hk => h.late k (hsub k hk), h.seed_le⟩
  · exact (List.pairwise_cons.1 (hq ▸ h.ascending)).2
  · intro k hk hp
    rcases List.mem_cons.1 (hq ▸ h.ahead k hk hp) with rfl | hk'
    · omega
    · exact hk'

theorem Pending.reject {p j : Nat} {queue : List Nat} {g : Growth} (h : Pending features area seed p g)
    (hq : g.queue = j :: queue) (hj : p < j) : Pending features area seed j { g with queue } := by
  have hsub : ∀ k ∈ queue, k ∈ g.queue := fun k hk => hq ▸ List.mem_cons_of_mem j hk
  obtain ⟨hlt, hasc⟩ := List.pairwise_cons.1 (hq ▸ h.ascending)
  refine ⟨hasc, fun k hk => h.seen_of_queue k (hsub k hk), fun k hk => h.behind k (hsub k hk), h.reached, ?_, ?_,
    h.seed_le.trans hj.le⟩
  · intro k hk hp
    rcases List.mem_cons.1 (hq ▸ h.ahead k hk (hj.trans hp)) with rfl | hk'
    · omega
    · exact hk'
  · intro k hk hkj
    exact absurd (hlt k hk) (by omega)

theorem Pending.absorb {p j : Nat} {queue : List Nat} {g : Growth} {other : Feature}
    (h : Pending features area seed p g) (hq : g.queue = j :: queue) (hj : p < j)
    (ho : g.names.overlapsHalf other.names = true) :
    Pending features area seed j (enqueueCarriers features area seed
      { g with names := g.names ∪ other.names, absorbed := g.absorbed ++ [j], queue }
      (other.names \ g.names).toList) := by
  have hnew := queues_enqueueCarriers features area seed
    { g with names := g.names ∪ other.names, absorbed := g.absorbed ++ [j], queue } (other.names \ g.names).toList
  have hr := h.reject hq hj
  have hlt := (List.pairwise_cons.1 (hq ▸ h.ascending)).1
  refine ⟨hnew.ascending hr.ascending, ?_, ?_, ?_, ?_, ?_, hr.seed_le⟩
  · intro k hk
    rw [hnew.seen]
    rcases (hnew.queue k).1 hk with hk | ⟨-, hk⟩
    · exact Or.inl (hr.seen_of_queue k hk)
    · exact Or.inr hk
  · intro k hk
    rcases (hnew.queue k).1 hk with hk | ⟨-, hs, name, -, hc⟩
    · exact hr.behind k hk
    · obtain ⟨f, hf, ha, -⟩ := mem_carriers.1 hc
      exact ⟨hs, f, hf, ha⟩
  · intro k hs name hn hc
    rw [hnew.names] at hn
    rw [hnew.seen]
    by_cases hg : name ∈ g.names
    · exact Or.inl (h.reached k hs name hg hc)
    · have ho := (SortedSet.mem_union.1 hn).resolve_left hg
      exact Or.inr ⟨hs, name, SortedSet.mem_sdiff.2 ⟨ho, hg⟩, hc⟩
  · intro k hk hjk
    rw [hnew.queue]
    by_cases hs : k ∈ g.seen
    · exact Or.inl (hr.ahead k hs hjk)
    · exact Or.inr ⟨hs, ((hnew.seen k).1 hk).resolve_left hs⟩
  · intro k hk hkj f hf
    rw [hnew.names]
    rcases (hnew.queue k).1 hk with hk | ⟨hunseen, hs, name, -, hc⟩
    · exact absurd (hlt k hk) (by omega)
    · apply SortedSet.not_overlapsHalf_union ho
      -- a name in common would have brought `k` into the queue before
      intro common hg hn
      obtain ⟨f', hf', ha, -⟩ := mem_carriers.1 hc
      obtain rfl : f' = f := Option.some.inj (hf'.symm.trans hf)
      exact hunseen (h.reached k hs common hg (mem_carriers.2 ⟨f', hf, ha, hn⟩))

theorem card_untaken_le (size : Nat) (g : Growth) : (untaken size g).card ≤ size := by
  rw [untaken]
  exact (Finset.card_filter_le _ _).trans_eq (Finset.card_range size)

theorem card_untaken_lt {size j : Nat} {queue : List Nat} {g base g' : Growth} {p : Nat → Prop}
    (hasc : g.queue.Pairwise (· < ·)) (hseen : ∀ k ∈ g.queue, k ∈ g.seen) (hq : g.queue = j :: queue) (hsize : j < size)
    (hbase : base.seen = g.seen ∧ base.queue = queue) (h : Queues seed p base g') :
    (untaken size g').card < (untaken size g).card := by
  apply Finset.card_lt_card
  rw [Finset.ssubset_iff_of_subset]
  · refine ⟨j, ?_, ?_⟩
    · simp only [untaken, Finset.mem_filter, Finset.mem_range]
      exact ⟨hsize, Or.inr (hq ▸ List.mem_cons_self)⟩
    · have hjs : j ∈ g.seen := hseen j (hq ▸ List.mem_cons_self)
      have hjq : j ∉ queue := fun hj => Nat.lt_irrefl j ((List.pairwise_cons.1 (hq ▸ hasc)).1 j hj)
      simp only [untaken, Finset.mem_filter, h.seen, h.queue, hbase, hjs, hjq, true_or, not_true_eq_false, false_and,
        or_self, and_false, not_false_eq_true]
  · intro k hk
    simp only [untaken, Finset.mem_filter, h.seen, h.queue, hbase, not_or] at hk ⊢
    refine ⟨hk.1, ?_⟩
    rcases hk.2 with ⟨hk, -⟩ | hk | ⟨hk, -⟩
    · exact Or.inl hk
    · exact Or.inr (hq ▸ List.mem_cons_of_mem j hk)
    · exact Or.inl hk

theorem plainScan_append {taken : List Nat} {names : SortedSet String} {js : List Nat} (js' : List Nat)
    (h : ∀ j ∈ js, ∀ f, features[j]? = some f → f.area = some area → names.overlapsHalf f.names = false) :
    plainScan features area taken names (js ++ js') = plainScan features area taken names js' := by
  induction js with
  | nil => rfl
  | cons j js ih =>
    have htail := ih fun k hk => h k (List.mem_cons_of_mem j hk)
    rw [List.cons_append, plainScan]
    split
    · exact htail
    · rename_i f hf
      rw [if_neg]
      · exact htail
      · rintro ⟨-, ha, ho⟩
        rw [h j List.mem_cons_self f hf ha] at ho
        exact Bool.false_ne_true ho

theorem Pending.plainScan_eq_nil {taken : List Nat} {p : Nat} {g : Growth} (h : Pending features area seed p g)
    (hq : g.queue = []) :
    plainScan features area taken g.names (List.range' (p + 1) (features.size - (p + 1))) = [] := by
  rw [← List.append_nil (List.range' _ _), plainScan_append]
  · rfl
  · intro j hj f hf ha
    have hp : p < j := (List.mem_range'_1.1 hj).1
    exact h.not_overlapsHalf hp (hq ▸ List.not_mem_nil) hf ha

theorem Pending.between {p j : Nat} {queue : List Nat} {g : Growth} (h : Pending features area seed p g)
    (hq : g.queue = j :: queue) : ∀ k ∈ List.range' (p + 1) (j - (p + 1)), ∀ f, features[k]? = some f →
      f.area = some area → g.names.overlapsHalf f.names = false := by
  intro k hk f hf ha
  obtain ⟨hpk, hkj⟩ := List.mem_range'_1.1 hk
  apply h.not_overlapsHalf hpk _ hf ha
  rw [hq]
  intro hmem
  rcases List.mem_cons.1 hmem with rfl | hmem
  · omega
  · have := (List.pairwise_cons.1 (hq ▸ h.ascending)).1 k hmem
    omega

theorem range'_split {p j n : Nat} (hp : p < j) (hj : j < n) :
    List.range' (p + 1) (n - (p + 1)) =
      List.range' (p + 1) (j - (p + 1)) ++ j :: List.range' (j + 1) (n - (j + 1)) := by
  have hlen : n - (p + 1) = (j - (p + 1)) + ((n - (j + 1)) + 1) := by omega
  have hstart : p + 1 + (j - (p + 1)) = j := by omega
  rw [hlen, ← List.range'_append_1, hstart, List.range'_succ]

theorem grow_absorbed {taken : List Nat} (fuel : Nat) {p : Nat} {g : Growth} (h : Pending features area seed p g)
    (hfuel : (untaken features.size g).card ≤ fuel) :
    (grow features area seed taken fuel g).absorbed =
      g.absorbed ++ plainScan features area taken g.names (List.range' (p + 1) (features.size - (p + 1))) := by
  induction fuel generalizing p g with
  | zero =>
    have hq := h.queue_eq_nil (Nat.le_zero.1 hfuel)
    rw [h.plainScan_eq_nil hq, List.append_nil]
    rfl
  | succ fuel ih =>
    cases hq : g.queue with
    | nil =>
      rw [h.plainScan_eq_nil hq, List.append_nil, grow, hq]
    | cons j queue =>
      obtain ⟨hs, f, hf, ha⟩ := h.behind j (hq ▸ List.mem_cons_self)
      have hsize := h.lt_size (hq ▸ List.mem_cons_self)
      have hless {q : Nat → Prop} {b g' : Growth} (hg : Queues seed q b g')
          (hb : b.seen = g.seen ∧ b.queue = queue) : (untaken features.size g').card ≤ fuel :=
        Nat.le_of_lt_succ ((card_untaken_lt h.ascending h.seen_of_queue hq hsize hb hg).trans_le hfuel)
      have hdrop : (untaken features.size { g with queue }).card ≤ fuel :=
        hless (Queues.none (fun _ => not_false) { g with queue }) ⟨rfl, rfl⟩
      rw [grow, hq]
      simp only [hf]
      by_cases hp : p < j
      · rw [range'_split hp hsize, plainScan_append _ (h.between hq), plainScan]
        simp only [hf, ha, true_and]
        by_cases hc : j ∉ taken ∧ g.names.overlapsHalf f.names = true
        · have hnew := queues_enqueueCarriers features area seed
            { g with names := g.names ∪ f.names, absorbed := g.absorbed ++ [j], queue } (f.names \ g.names).toList
          rw [if_pos hc, if_pos hc, ih (h.absorb hq hp hc.2) (hless hnew ⟨rfl, rfl⟩), hnew.absorbed, hnew.names,
            List.append_assoc, List.singleton_append]
        · rw [if_neg hc, if_neg hc, ih (h.reject hq hp) hdrop]
      · have hlate := h.late j (hq ▸ List.mem_cons_self) (by omega) f hf
        rw [if_neg (by simp only [hlate, Bool.false_eq_true, and_false, not_false_eq_true]),
          ih (h.skip hq (by omega)) hdrop]

variable (features area seed) in
theorem pending_start (names : SortedSet String) :
    Pending features area seed seed
      (enqueueCarriers features area seed ⟨names, [], [seed], []⟩ names.toList) := by
  have hnew := queues_enqueueCarriers features area seed ⟨names, [], [seed], []⟩ names.toList
  refine ⟨hnew.ascending List.Pairwise.nil, ?_, ?_, ?_, ?_, ?_, Nat.le_refl _⟩
  · intro k hk
    rw [hnew.seen]
    exact Or.inr (((hnew.queue k).1 hk).resolve_left List.not_mem_nil).2
  · intro k hk
    obtain ⟨-, hs, name, -, hc⟩ := ((hnew.queue k).1 hk).resolve_left List.not_mem_nil
    obtain ⟨f', hf', ha', -⟩ := mem_carriers.1 hc
    exact ⟨hs, f', hf', ha'⟩
  · intro k hs name hn hc
    rw [hnew.names] at hn
    rw [hnew.seen]
    exact Or.inr ⟨hs, name, hn, hc⟩
  · intro k hk hs
    have hne : k ∉ [seed] := fun h => Nat.ne_of_gt hs (List.mem_singleton.1 h)
    rw [hnew.queue]
    exact Or.inr ⟨hne, ((hnew.seen k).1 hk).resolve_left hne⟩
  · intro k hk hle
    obtain ⟨-, hs, -⟩ := ((hnew.queue k).1 hk).resolve_left List.not_mem_nil
    omega

theorem absorbedBy_eq_plainAbsorbedBy (features : Array Feature) : absorbedBy features = plainAbsorbedBy features := by
  funext seed taken
  rw [absorbedBy, plainAbsorbedBy]
  cases hseed : features[seed]? with
  | none => rfl
  | some f =>
    cases ha : f.area with
    | none => simp only [ha]
    | some area =>
      have hnew := queues_enqueueCarriers features area seed ⟨f.names, [], [seed], []⟩ f.names.toList
      simp only [ha]
      rw [grow_absorbed features.size (pending_start features area seed f.names) (card_untaken_le _ _), hnew.absorbed,
        hnew.names, List.nil_append]

theorem groups_eq_plainGroups (features : Array Feature) : groups features = plainGroups features := by
  rw [groups, plainGroups, absorbedBy_eq_plainAbsorbedBy]

end Demarcation.Feature
