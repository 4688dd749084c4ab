import Mathlib.Data.List.Induction
import Mathlib.Data.List.Nodup
import Mathlib.Data.List.Pairwise
import Demarcation.Proofs.InventoryMembers
import Demarcation.Proofs.Strength

/-!
Stars of linked declarations. The first free member of a list absorbs all later free ones that are linked to it, and so on
with what is left. So the centres of the stars are the members that are linked to no centre before them, and each other
member belongs to the first centre that it is linked to (`starGroups_eq`, `starClustering_seeds`).
-/

namespace Demarcation

section Stars

variable {α : Type} (link : α → α → Bool)

def seeds (l : List α) : List α := l.foldl (fun found a => if found.any (link · a) then found else found ++ [a]) []

def absorbed [DecidableEq α] (l : List α) (seed : α) : List α :=
  l.filter fun a => decide (a ∉ seeds link l ∧ (seeds link l).find? (link · a) = some seed)

def joinGroup (a : α) : List (α × List α) → List (α × List α)
  | [] => [(a, [])]
  | (seed, as) :: groups => if link seed a then (seed, as ++ [a]) :: groups else (seed, as) :: joinGroup a groups

section Seeds

variable {link} {l m : List α} {a s : α}

theorem seeds_append_singleton (l : List α) (a : α) :
    seeds link (l ++ [a]) = if (seeds link l).any (link · a) then seeds link l else seeds link l ++ [a] := by
  rw [seeds, List.foldl_append]
  rfl

theorem seeds_append_of_some (h : (seeds link l).find? (link · a) = some s) : seeds link (l ++ [a]) = seeds link l := by
  rw [seeds_append_singleton, if_pos]
  exact List.any_eq_true.2 ⟨s, List.mem_of_find?_eq_some h, List.find?_some (p := (link · a)) h⟩

theorem seeds_append_of_none (h : (seeds link l).find? (link · a) = none) :
    seeds link (l ++ [a]) = seeds link l ++ [a] := by
  rw [seeds_append_singleton, if_neg]
  simpa only [List.any_eq_true, not_exists, not_and] using List.find?_eq_none.1 h

theorem exists_seeds_append (link : α → α → Bool) (l m : List α) :
    ∃ later, seeds link (l ++ m) = seeds link l ++ later ∧ later.Sublist m := by
  induction m using List.reverseRecOn with
  | nil => exact ⟨[], by simp⟩
  | append_singleton m a ih =>
    obtain ⟨later, hseeds, hlater⟩ := ih
    rw [← List.append_assoc]
    cases hfind : (seeds link (l ++ m)).find? (link · a) with
    | some s => exact ⟨later, (seeds_append_of_some hfind).trans hseeds, hlater.trans (List.sublist_append_left m [a])⟩
    | none =>
      refine ⟨later ++ [a], ?_, hlater.append (List.Sublist.refl [a])⟩
      rw [seeds_append_of_none hfind, hseeds, List.append_assoc]

theorem seeds_sublist (l : List α) : (seeds link l).Sublist l := by
  obtain ⟨later, hseeds, hlater⟩ := exists_seeds_append link [] l
  rw [List.nil_append] at hseeds
  rw [hseeds]
  exact hlater

theorem pairwise_seeds (l : List α) : (seeds link l).Pairwise fun s t => link s t = false := by
  induction l using List.reverseRecOn with
  | nil => exact List.Pairwise.nil
  | append_singleton l a ih =>
    cases hfind : (seeds link l).find? (link · a) with
    | some s =>
      rw [seeds_append_of_some hfind]
      exact ih
    | none =>
      rw [seeds_append_of_none hfind, List.pairwise_append]
      refine ⟨ih, List.pairwise_singleton _ a, ?_⟩
      intro s hs t ht
      rw [List.mem_singleton.1 ht]
      exact Bool.eq_false_iff.2 (List.find?_eq_none.1 hfind s hs)

theorem mem_seeds_append_iff (h : (l ++ m).Nodup) (hs : s ∈ l) : s ∈ seeds link (l ++ m) ↔ s ∈ seeds link l := by
  obtain ⟨later, hseeds, hlater⟩ := exists_seeds_append link l m
  rw [hseeds, List.mem_append, or_iff_left]
  intro hmem
  exact (List.disjoint_of_nodup_append h) hs (hlater.subset hmem)

theorem exists_first_seed (ha : a ∈ l) (hseed : a ∉ seeds link l) : ∃ s, (seeds link l).find? (link · a) = some s := by
  induction l using List.reverseRecOn with
  | nil => cases ha
  | append_singleton l b ih =>
    cases hfind : (seeds link l).find? (link · b) with
    | some t =>
      rw [seeds_append_of_some hfind] at hseed ⊢
      rcases List.mem_append.1 ha with ha | ha
      · exact ih ha hseed
      · rw [List.mem_singleton.1 ha]
        exact ⟨t, hfind⟩
    | none =>
      rw [seeds_append_of_none hfind, List.mem_append, not_or] at hseed
      rw [seeds_append_of_none hfind]
      obtain ⟨s, hs⟩ := ih ((List.mem_append.1 ha).resolve_right hseed.2) hseed.1
      exact ⟨s, by rw [List.find?_append, hs, Option.some_or]⟩

theorem first_seed_append (m : List α) (ha : a ∈ l) (hseed : a ∉ seeds link l) :
    (seeds link (l ++ m)).find? (link · a) = (seeds link l).find? (link · a) := by
  obtain ⟨later, hseeds, -⟩ := exists_seeds_append link l m
  obtain ⟨s, hs⟩ := exists_first_seed ha hseed
  rw [hseeds, List.find?_append, hs, Option.some_or]

end Seeds

section Absorbed

variable [DecidableEq α] {link} {l : List α} {a s : α}

theorem mem_absorbed_iff :
    a ∈ absorbed link l s ↔ a ∈ l ∧ a ∉ seeds link l ∧ (seeds link l).find? (link · a) = some s := by
  rw [absorbed, List.mem_filter, decide_eq_true_eq]

theorem absorbed_eq_nil (h : s ∉ l) : absorbed link l s = [] := by
  rw [List.eq_nil_iff_forall_not_mem]
  intro a ha
  exact h ((seeds_sublist l).subset (List.mem_of_find?_eq_some (mem_absorbed_iff.1 ha).2.2))

theorem absorbed_append_singleton (h : (l ++ [a]).Nodup) (s : α) :
    absorbed link (l ++ [a]) s =
      absorbed link l s ++ if (seeds link l).find? (link · a) = some s then [a] else [] := by
  have ha : a ∉ l := fun ha => List.disjoint_of_nodup_append h ha List.mem_cons_self
  rw [absorbed, List.filter_append]
  refine congrArg₂ (· ++ ·) ?_ ?_
  · apply List.filter_congr
    intro b hb
    rw [decide_eq_decide, mem_seeds_append_iff h hb]
    exact and_congr_right fun hseed => by rw [first_seed_append [a] hb hseed]
  · cases hfind : (seeds link l).find? (link · a) with
    | some first =>
      have hseed : a ∉ seeds link l := fun hmem => ha ((seeds_sublist l).subset hmem)
      rw [seeds_append_of_some hfind]
      by_cases hs : first = s
      · simp [hs, hfind, hseed]
      · simp [hs, hfind]
    | none =>
      rw [seeds_append_of_none hfind]
      simp

end Absorbed

section Groups

variable {link} {l : List α} {a : α}

theorem starGroups_append_singleton {fuel : Nat} (h : l.length < fuel) (a : α) :
    starGroups link fuel (l ++ [a]) = joinGroup link a (starGroups link fuel l) := by
  induction fuel generalizing l with
  | zero => cases h
  | succ fuel ih =>
    cases l with
    | nil => cases fuel <;> rfl
    | cons seed rest =>
      rw [List.length_cons] at h
      rw [List.cons_append, starGroups, starGroups, joinGroup, List.filter_append, List.filter_append]
      cases hlink : link seed a with
      | true => simp [hlink]
      | false =>
        have hshort : (rest.filter fun b => !link seed b).length < fuel := by
          have := List.length_filter_le (fun b => !link seed b) rest
          omega
        simp [hlink, ih hshort]

theorem joinGroup_map {ss : List α} [DecidableEq α] (hss : ss.Nodup) (group : α → List α) (a : α) :
    joinGroup link a (ss.map fun s => (s, group s)) =
      match ss.find? (link · a) with
      | some first => ss.map fun s => (s, if s = first then group s ++ [a] else group s)
      | none => ss.map (fun s => (s, group s)) ++ [(a, [])] := by
  induction ss with
  | nil => rfl
  | cons s ss ih =>
    obtain ⟨hs, hss⟩ := List.nodup_cons.1 hss
    rw [List.map_cons, joinGroup, List.find?_cons]
    cases hlink : link s a with
    | true =>
      have hothers : (ss.map fun t => (t, if t = s then group t ++ [a] else group t)) = ss.map fun t => (t, group t) := by
        apply List.map_congr_left
        intro t ht
        rw [if_neg (ne_of_mem_of_not_mem ht hs)]
      simp [hothers]
    | false =>
      rw [ih hss]
      cases hfind : ss.find? (link · a) with
      | none => simp
      | some first =>
        have hne : s ≠ first := by
          rintro rfl
          exact hs (List.mem_of_find?_eq_some hfind)
        simp [hne]

theorem starGroups_eq [DecidableEq α] {fuel : Nat} (hnodup : l.Nodup) (h : l.length ≤ fuel) :
    starGroups link fuel l = (seeds link l).map fun s => (s, absorbed link l s) := by
  induction l using List.reverseRecOn with
  | nil => cases fuel <;> rfl
  | append_singleton l a ih =>
    rw [List.length_append, List.length_singleton] at h
    have hl : l.Nodup := hnodup.of_append_left
    have ha : a ∉ l := fun ha => List.disjoint_of_nodup_append hnodup ha List.mem_cons_self
    rw [starGroups_append_singleton (by omega), ih hl (by omega), joinGroup_map (hl.sublist (seeds_sublist l))]
    simp only [absorbed_append_singleton hnodup]
    cases hfind : (seeds link l).find? (link · a) with
    | some first =>
      rw [seeds_append_of_some hfind]
      apply List.map_congr_left
      intro s _
      by_cases hs : s = first
      · simp [hs]
      · simp [hs, Ne.symm hs]
    | none =>
      rw [seeds_append_of_none hfind, List.map_append]
      simp [absorbed_eq_nil ha]

end Groups

section Clustering

/-- A greedy star clustering of a list: the seeds in order, and what each of them absorbs. -/
structure StarClustering (l ss : List α) (absorbed : α → List α) : Prop where
  seeds_sublist : ss.Sublist l
  mem_seeds_iff : ∀ before a after, l = before ++ a :: after → (a ∈ ss ↔ ∀ s ∈ ss, s ∈ before → link s a = false)
  not_linked : ∀ s ∈ ss, ∀ t ∈ ss, s ≠ t → link s t = false
  mem_absorbed_iff : ∀ earlier s later, ss = earlier ++ s :: later →
    ∀ a, a ∈ absorbed s ↔ a ∈ l ∧ a ∉ ss ∧ link s a = true ∧ ∀ t ∈ earlier, link t a = false
  exists_unique : ∀ a ∈ l, a ∉ ss → ∃ s ∈ ss, a ∈ absorbed s ∧ ∀ t ∈ ss, a ∈ absorbed t → t = s

variable {link}

theorem find?_eq_some_iff_of_nodup {earlier later : List α} {s : α} {p : α → Bool}
    (h : (earlier ++ s :: later).Nodup) :
    (earlier ++ s :: later).find? p = some s ↔ p s = true ∧ ∀ t ∈ earlier, p t = false := by
  rw [List.find?_append, List.find?_cons]
  have hearlier : s ∉ earlier := fun hs => List.disjoint_of_nodup_append h hs List.mem_cons_self
  have hlater : s ∉ later := (List.nodup_cons.1 h.of_append_right).1
  cases hfind : earlier.find? p with
  | some t =>
    have ht := List.mem_of_find?_eq_some hfind
    have hpt := List.find?_some hfind
    constructor
    · intro heq
      exact absurd (Option.some.inj heq ▸ ht) hearlier
    · rintro ⟨-, hnone⟩
      rw [hnone t ht] at hpt
      cases hpt
  | none =>
    have hnone : ∀ t ∈ earlier, p t = false := fun t ht => Bool.eq_false_iff.2 (List.find?_eq_none.1 hfind t ht)
    cases hps : p s with
    | true => exact iff_of_true rfl ⟨rfl, hnone⟩
    | false =>
      simp only [Option.none_or, Bool.false_eq_true, false_and, iff_false]
      exact fun heq => hlater (List.mem_of_find?_eq_some heq)

theorem starClustering_seeds [DecidableEq α] {l : List α} (hnodup : l.Nodup) (hsymm : ∀ a b, link a b = link b a) :
    StarClustering link l (seeds link l) (absorbed link l) where
  seeds_sublist := seeds_sublist l
  mem_seeds_iff := by
    rintro before a after rfl
    have hsplit : before ++ a :: after = (before ++ [a]) ++ after := by simp
    have ha : a ∉ seeds link before :=
      fun ha => List.disjoint_of_nodup_append hnodup ((seeds_sublist before).subset ha) List.mem_cons_self
    have hbefore : (∀ s ∈ seeds link (before ++ a :: after), s ∈ before → link s a = false) ↔
        ∀ s ∈ seeds link before, link s a = false := by
      constructor
      · intro h s hs
        have hsb := (seeds_sublist before).subset hs
        exact h s ((mem_seeds_append_iff hnodup hsb).2 hs) hsb
      · intro h s hs hsb
        exact h s ((mem_seeds_append_iff hnodup hsb).1 hs)
    rw [hbefore, hsplit, mem_seeds_append_iff (hsplit ▸ hnodup) (List.mem_append_right before List.mem_cons_self)]
    cases hfind : (seeds link before).find? (link · a) with
    | some s =>
      rw [seeds_append_of_some hfind]
      refine iff_of_false ha fun h => ?_
      have hlink := List.find?_some (p := (link · a)) hfind
      rw [h s (List.mem_of_find?_eq_some hfind)] at hlink
      cases hlink
    | none =>
      rw [seeds_append_of_none hfind]
      refine iff_of_true (List.mem_append_right _ List.mem_cons_self) fun s hs => ?_
      exact Bool.eq_false_iff.2 (List.find?_eq_none.1 hfind s hs)
  not_linked := by
    have hsymmetric : Std.Symm fun s t => link s t = false := ⟨fun s t h => hsymm t s ▸ h⟩
    intro s hs t ht hne
    exact (pairwise_seeds l).forall hs ht hne
  mem_absorbed_iff := by
    intro earlier s later hseeds a
    have hnodup' : (earlier ++ s :: later).Nodup := hseeds ▸ hnodup.sublist (seeds_sublist l)
    rw [mem_absorbed_iff, hseeds, find?_eq_some_iff_of_nodup hnodup']
  exists_unique := by
    intro a ha hseed
    obtain ⟨s, hs⟩ := exists_first_seed ha hseed
    refine ⟨s, List.mem_of_find?_eq_some hs, mem_absorbed_iff.2 ⟨ha, hseed, hs⟩, ?_⟩
    intro t _ hat
    exact Option.some.inj ((mem_absorbed_iff.1 hat).2.2.symm.trans hs)

namespace StarClustering

variable {l ss : List α} {absorbed : α → List α} {a s t : α}

theorem of_mem_absorbed (h : StarClustering link l ss absorbed) (hs : s ∈ ss) (ha : a ∈ absorbed s) :
    a ∈ l ∧ a ∉ ss := by
  obtain ⟨earlier, later, hsplit⟩ := List.append_of_mem hs
  obtain ⟨hl, hss, -⟩ := (h.mem_absorbed_iff earlier s later hsplit a).1 ha
  exact ⟨hl, hss⟩

theorem mem_of_star (h : StarClustering link l ss absorbed) (hs : s ∈ ss) (ha : a = s ∨ a ∈ absorbed s) : a ∈ l := by
  rcases ha with rfl | ha
  · exact h.seeds_sublist.subset hs
  · exact (h.of_mem_absorbed hs ha).1

theorem eq_of_star (h : StarClustering link l ss absorbed) (hs : s ∈ ss) (ht : t ∈ ss) (has : a = s ∨ a ∈ absorbed s)
    (hat : a = t ∨ a ∈ absorbed t) : s = t := by
  rcases has with rfl | has
  · rcases hat with rfl | hat
    · rfl
    · exact absurd hs (h.of_mem_absorbed ht hat).2
  · rcases hat with rfl | hat
    · exact absurd ht (h.of_mem_absorbed hs has).2
    · obtain ⟨hl, hss⟩ := h.of_mem_absorbed hs has
      obtain ⟨u, -, -, hunique⟩ := h.exists_unique a hl hss
      exact (hunique s hs has).trans (hunique t ht hat).symm

end StarClustering

end Clustering

end Stars

section Declarations

theorem linked_comm (R : Type) [Scalar R] (d e : Declaration) : linked R d e = linked R e d := by
  rw [linked, linked, strength_comm]

def entriesLinked (R : Type) [Scalar R] (p q : Nat × Declaration) : Bool := linked R p.2 q.2

def starMembers (seed : Nat × Declaration) (absorbed : List (Nat × Declaration)) : SortedSet Nat :=
  SortedSet.ofList ((seed :: absorbed).map (·.1))

variable {R : Type} [Scalar R] {inv : Inventory} {options : ClusteringOptions} {sample : List (Nat × Declaration)}

theorem nodup_sample (h : strideSample inv.entries options.maxDependencyNodes = .ok sample) :
    (sample.map (·.1)).Nodup :=
  inv.nodup_map_fst_entries.sublist ((strideSample_sublist h).map _)

theorem mem_starMembers_iff {s : Nat × Declaration} {as : List (Nat × Declaration)} {i : Nat} :
    i ∈ starMembers s as ↔ ∃ e, (e = s ∨ e ∈ as) ∧ e.1 = i := by
  rw [starMembers, SortedSet.mem_ofList, List.mem_map]
  simp only [List.mem_cons]

theorem exists_dependencyClusters (R : Type) [Scalar R]
    (h : strideSample inv.entries options.maxDependencyNodes = .ok sample) :
    ∃ found, dependencyClusters R inv options = .ok found ∧
      found.map (·.members) =
        ((seeds (entriesLinked R) sample).filter fun s => !(absorbed (entriesLinked R) sample s).isEmpty).map
          fun s => starMembers s (absorbed (entriesLinked R) sample s) := by
  rw [dependencyClusters, h]
  refine ⟨_, rfl, ?_⟩
  change List.map _ (List.map _ (List.filter _ (starGroups (entriesLinked R) sample.length sample))) = _
  rw [starGroups_eq (nodup_sample h).of_map le_rfl, List.filter_map, List.map_map, List.map_map]
  rfl

/-- Linked declarations form a greedy star clustering of an ordered sample: each declaration that is linked to no seed
before it is a seed, and each other one belongs to the first seed that it is linked to. The candidates are the seeds that
absorb something, each with what it absorbs, and no two candidates share a member. -/
theorem dependencyClusters_starClustering {R : Type} [Scalar R] (inv : Inventory) (options : ClusteringOptions)
    (h : 1 ≤ options.maxDependencyNodes) :
    ∃ sample found, strideSample inv.entries options.maxDependencyNodes = .ok sample ∧
      dependencyClusters R inv options = .ok found ∧ (sample.map (·.1)).Pairwise (· < ·) ∧
      ∃ ss stars, StarClustering (entriesLinked R) sample ss stars ∧
        found.map (·.members) = (ss.filter fun s => !(stars s).isEmpty).map (fun s => starMembers s (stars s)) ∧
        found.Pairwise fun c d => ∀ i ∈ c.members, i ∉ d.members := by
  have hlimit : options.maxDependencyNodes ≠ 0 := by omega
  obtain ⟨sample, hsample⟩ := exists_strideSample inv.entries hlimit
  obtain ⟨found, hfound, hmembers⟩ := exists_dependencyClusters R hsample
  have hnodup := nodup_sample hsample
  have hstars : StarClustering (entriesLinked R) sample (seeds (entriesLinked R) sample)
      (absorbed (entriesLinked R) sample) :=
    starClustering_seeds hnodup.of_map fun p q => linked_comm R p.2 q.2
  refine ⟨sample, found, hsample, hfound, ?_, _, _, hstars, hmembers, ?_⟩
  · have hordered : inv.positions.Pairwise (· < ·) := List.pairwise_lt_range
    rw [← Inventory.map_fst_entries] at hordered
    exact hordered.sublist ((strideSample_sublist hsample).map _)
  · have hdisjoint : (found.map (·.members)).Pairwise fun m n => ∀ i ∈ m, i ∉ n := by
      rw [hmembers, List.pairwise_map]
      apply (((hnodup.of_map).sublist hstars.seeds_sublist).filter _).pairwise_of_forall_ne
      intro s hs t ht hne i his hit
      have hs := List.mem_of_mem_filter hs
      have ht := List.mem_of_mem_filter ht
      obtain ⟨d, hds, rfl⟩ := mem_starMembers_iff.1 his
      obtain ⟨e, het, heq⟩ := mem_starMembers_iff.1 hit
      obtain rfl := List.inj_on_of_nodup_map hnodup (hstars.mem_of_star ht het) (hstars.mem_of_star hs hds) heq
      exact hne (hstars.eq_of_star hs ht hds het)
    exact List.pairwise_map.1 hdisjoint

def callChain : Inventory where
  declarations := #[
    { kind := .function, name := "quote", file := "basket/quote.go", line := 3, calls := ["rates.convert"] },
    { kind := .function, name := "convert", file := "rates/convert.go", line := 5, calls := ["store.lookup"] },
    { kind := .function, name := "lookup", file := "store/lookup.go", line := 8 }]

theorem dependencyClusters_starClustering_callChain :
    1 ≤ ({} : ClusteringOptions).maxDependencyNodes ∧
      ∃ found, dependencyClusters Rat callChain {} = .ok found ∧ found.map (·.members.toList) = [[0, 1]] ∧
        found.Pairwise fun c d => ∀ i ∈ c.members, i ∉ d.members := by
  have hlimit : 1 ≤ ({} : ClusteringOptions).maxDependencyNodes := by decide
  obtain ⟨-, found, -, hfound, -, -, -, -, -, hdisjoint⟩ :=
    dependencyClusters_starClustering (R := Rat) callChain {} hlimit
  have hmembers : (dependencyClusters Rat callChain {}).toOption.map (·.map (·.members.toList)) = some [[0, 1]] := by
    decide +kernel
  rw [hfound] at hmembers
  exact ⟨hlimit, found, hfound, Option.some.inj hmembers, hdisjoint⟩

end Declarations

end Demarcation
