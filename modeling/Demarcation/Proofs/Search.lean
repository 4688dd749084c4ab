import Mathlib.Data.List.Nodup
import Mathlib.Data.List.Range
import Demarcation.Proofs.QueuedScan

/-!
The search of one group, turn by turn. Each turn takes the first position from the queue. No position comes into the
queue twice, not even after it was taken (`Searches.once`), so every search ends, and with an empty queue
(`exists_searches_searched`). The names that the group has grown are those of the seed and of what it absorbed
(`Searches.mem_names_iff`).
-/

namespace Demarcation.Feature

variable {features : Array Feature} {area : String} {seed : Nat} {taken : List Nat} {start : Growth}

section Definitions

variable (features area seed)

def begun (names : SortedSet String) : Growth :=
  enqueueCarriers features area seed ⟨names, [], [seed], []⟩ names.toList

variable (taken : List Nat)

def searched (names : SortedSet String) : Growth :=
  grow features area seed taken features.size (begun features area seed names)

def turn (j : Nat) (queue : List Nat) (g : Growth) : Growth :=
  match features[j]? with
  | none => { g with queue }
  | some other =>
    if j ∉ taken ∧ g.names.overlapsHalf other.names then
      enqueueCarriers features area seed
        { g with names := g.names ∪ other.names, absorbed := g.absorbed ++ [j], queue } (other.names \ g.names).toList
    else { g with queue }

/-- What a search can make of a growth, with the positions that it has taken from the queue so far, in order. -/
inductive Searches (start : Growth) : List Nat → Growth → Prop
  | start : Searches start [] start
  | turn {js : List Nat} {g : Growth} {j : Nat} {queue : List Nat} (h : Searches start js g)
      (hq : g.queue = j :: queue) : Searches start (js ++ [j]) (turn features area seed taken j queue g)

end Definitions

theorem absorbedBy_of_area {f : Feature} (hf : features[seed]? = some f) (ha : f.area = some area) :
    absorbedBy features seed taken = (searched features area seed taken f.names).absorbed := by
  simp only [absorbedBy, hf, ha, searched, begun]

theorem grow_of_queue {g : Growth} {j : Nat} {queue : List Nat} (hq : g.queue = j :: queue) (fuel : Nat) :
    grow features area seed taken (fuel + 1) g =
      grow features area seed taken fuel (turn features area seed taken j queue g) := by
  rw [grow, hq, turn]
  cases hf : features[j]? with
  | none => simp only [hf]
  | some f =>
    simp only [hf]
    split
    · rfl
    · rfl

theorem grow_of_queue_nil {g : Growth} (hq : g.queue = []) (fuel : Nat) :
    grow features area seed taken fuel g = g := by
  cases fuel with
  | zero => rfl
  | succ fuel => rw [grow, hq]

/-- Growing is searching: it takes one position in each turn, until the queue is empty or the turns are used up. -/
theorem exists_searches_grow (fuel : Nat) {js : List Nat} {g : Growth}
    (h : Searches features area seed taken start js g) :
    ∃ js', Searches features area seed taken start (js ++ js') (grow features area seed taken fuel g) ∧
      ((grow features area seed taken fuel g).queue = [] ∨ js'.length = fuel) := by
  induction fuel generalizing js g with
  | zero => exact ⟨[], by rwa [List.append_nil], Or.inr rfl⟩
  | succ fuel ih =>
    cases hq : g.queue with
    | nil =>
      rw [grow_of_queue_nil hq]
      exact ⟨[], by rwa [List.append_nil], Or.inl hq⟩
    | cons j queue =>
      obtain ⟨js', hsearch, hend⟩ := ih (h.turn hq)
      rw [grow_of_queue hq]
      refine ⟨j :: js', by rwa [List.append_cons], hend.imp_right ?_⟩
      intro hlength
      rw [List.length_cons, hlength]

variable (features area seed taken) in
theorem turn_eq_or (j : Nat) (queue : List Nat) (g : Growth) :
    turn features area seed taken j queue g = { g with queue } ∨ ∃ other, features[j]? = some other ∧
      turn features area seed taken j queue g = enqueueCarriers features area seed
        { g with names := g.names ∪ other.names, absorbed := g.absorbed ++ [j], queue }
        (other.names \ g.names).toList := by
  rw [turn]
  split
  · exact Or.inl rfl
  · rename_i other hf
    split
    · exact Or.inr ⟨other, hf, rfl⟩
    · exact Or.inl rfl

variable (features area seed taken) in
theorem queues_turn (j : Nat) (queue : List Nat) (g : Growth) :
    ∃ p base, base.seen = g.seen ∧ base.queue = queue ∧ (∀ k, p k → k < features.size) ∧
      Queues seed p base (turn features area seed taken j queue g) := by
  rcases turn_eq_or features area seed taken j queue g with h | ⟨other, -, h⟩
  · rw [h]
    exact ⟨fun _ => False, { g with queue }, rfl, rfl, fun _ => False.elim, Queues.none (fun _ => not_false) _⟩
  · rw [h]
    refine ⟨_, { g with names := g.names ∪ other.names, absorbed := g.absorbed ++ [j], queue }, rfl, rfl, ?_,
      queues_enqueueCarriers features area seed _ _⟩
    rintro k ⟨name, -, hk⟩
    obtain ⟨f, hf, -⟩ := mem_carriers.1 hk
    exact (Array.getElem?_eq_some_iff.1 hf).1

/-- What holds in every turn: the positions that were taken and those in the queue are all different, they have been
seen, and they are behind the seed. -/
structure Once (features : Array Feature) (seed : Nat) (js : List Nat) (g : Growth) : Prop where
  ascending : g.queue.Pairwise (· < ·)
  nodup : (js ++ g.queue).Nodup
  seen : ∀ j ∈ js ++ g.queue, j ∈ g.seen
  behind : ∀ j ∈ js ++ g.queue, seed < j ∧ j < features.size

theorem once_begun (names : SortedSet String) : Once features seed [] (begun features area seed names) := by
  have hstart := pending_start features area seed names
  refine ⟨hstart.ascending, hstart.ascending.imp Nat.ne_of_lt, hstart.seen_of_queue, ?_⟩
  intro j hj
  exact ⟨(hstart.behind j hj).1, hstart.lt_size hj⟩

theorem Once.turn {js : List Nat} {g : Growth} {j : Nat} {queue : List Nat} (h : Once features seed js g)
    (hq : g.queue = j :: queue) : Once features seed (js ++ [j]) (turn features area seed taken j queue g) := by
  obtain ⟨p, base, hseen, hqueue, hsize, hnew⟩ := queues_turn features area seed taken j queue g
  have hold : js ++ g.queue = js ++ [j] ++ queue := by rw [hq, List.append_cons]
  have hascending : base.queue.Pairwise (· < ·) := by
    rw [hqueue]
    exact (List.pairwise_cons.1 (hq ▸ h.ascending)).2
  have hbefore : ∀ k ∈ js ++ [j] ++ queue, k ∈ base.seen := by
    rw [← hold, hseen]
    exact h.seen
  -- what comes into the queue has not been seen, so it is none of the positions before
  have hcases : ∀ k ∈ (Feature.turn features area seed taken j queue g).queue,
      k ∈ queue ∨ k ∉ base.seen ∧ seed < k ∧ p k := by
    intro k hk
    rw [← hqueue]
    exact (hnew.queue k).1 hk
  have hall : ∀ k ∈ js ++ [j] ++ (Feature.turn features area seed taken j queue g).queue,
      k ∈ js ++ [j] ++ queue ∨ k ∉ base.seen ∧ seed < k ∧ p k := by
    intro k hk
    rcases List.mem_append.1 hk with hk | hk
    · exact Or.inl (List.mem_append_left _ hk)
    · exact (hcases k hk).imp_left (List.mem_append_right _)
  refine ⟨hnew.ascending hascending, ?_, ?_, ?_⟩
  · have hnodup : (js ++ [j] ++ queue).Nodup := hold ▸ h.nodup
    have hdisjoint := (List.nodup_append'.1 hnodup).2.2
    refine List.nodup_append'.2 ⟨(List.nodup_append'.1 hnodup).1, (hnew.ascending hascending).imp Nat.ne_of_lt, ?_⟩
    intro k hk hk'
    rcases hcases k hk' with hk' | ⟨hunseen, -⟩
    · exact hdisjoint hk hk'
    · exact hunseen (hbefore k (List.mem_append_left _ hk))
  · intro k hk
    rw [hnew.seen]
    exact (hall k hk).imp (hbefore k) And.right
  · intro k hk
    rcases hall k hk with hk | ⟨-, hs, hp⟩
    · exact h.behind k (hold ▸ hk)
    · exact ⟨hs, hsize k hp⟩

theorem Searches.once {names : SortedSet String} {js : List Nat} {g : Growth}
    (h : Searches features area seed taken (begun features area seed names) js g) : Once features seed js g := by
  induction h with
  | start => exact once_begun names
  | turn _ hq ih => exact ih.turn hq

theorem Once.length_le {js : List Nat} {g : Growth} (h : Once features seed js g) :
    (js ++ g.queue).length ≤ features.size - (seed + 1) := by
  have hsub : (js ++ g.queue).Subperm (List.range' (seed + 1) (features.size - (seed + 1))) := by
    apply h.nodup.subperm
    intro j hj
    have hbounds := h.behind j hj
    exact List.mem_range'_1.2 ⟨hbounds.1, by omega⟩
  exact hsub.length_le.trans_eq List.length_range'

variable (features area seed taken) in
theorem exists_searches_searched (names : SortedSet String) :
    ∃ js, Searches features area seed taken (begun features area seed names) js
      (searched features area seed taken names) ∧ (searched features area seed taken names).queue = [] := by
  rw [searched]
  have hstart : Searches features area seed taken (begun features area seed names) [] _ := .start
  obtain ⟨js, hsearch, hend⟩ := exists_searches_grow features.size hstart
  refine ⟨js, hsearch, hend.elim id ?_⟩
  intro hlength
  have hle := hsearch.once.length_le
  rw [List.nil_append, List.length_append, hlength] at hle
  exact List.eq_nil_of_length_eq_zero (by omega)

/-- The search of a seed has no position in its queue that was there before, so it ends after at most as many turns as
there are positions behind the seed, and what it has absorbed then is what the seed absorbs. -/
structure EndsSearch (features : Array Feature) (area : String) (seed : Nat) (taken : List Nat)
    (names : SortedSet String) : Prop where
  once : ∀ js g, Searches features area seed taken (begun features area seed names) js g →
    (js ++ g.queue).Nodup ∧ (js ++ g.queue).length ≤ features.size - (seed + 1)
  ends : ∃ js g, Searches features area seed taken (begun features area seed names) js g ∧ g.queue = [] ∧
    absorbedBy features seed taken = g.absorbed

theorem endsSearch {f : Feature} (hf : features[seed]? = some f) (ha : f.area = some area) (taken : List Nat) :
    EndsSearch features area seed taken f.names := by
  obtain ⟨js, hsearch, hempty⟩ := exists_searches_searched features area seed taken f.names
  refine ⟨fun js g h => ⟨h.once.nodup, h.once.length_le⟩, js, _, hsearch, hempty, absorbedBy_of_area hf ha⟩

theorem Searches.mem_names_iff {names : SortedSet String} {js : List Nat} {g : Growth}
    (h : Searches features area seed taken (begun features area seed names) js g) {name : String} :
    name ∈ g.names ↔ name ∈ names ∨ ∃ j ∈ g.absorbed, ∃ f, features[j]? = some f ∧ name ∈ f.names := by
  induction h with
  | start =>
    have hbegun := queues_enqueueCarriers features area seed ⟨names, [], [seed], []⟩ names.toList
    have hnames : (begun features area seed names).names = names := hbegun.names
    have habsorbed : (begun features area seed names).absorbed = [] := hbegun.absorbed
    simp only [hnames, habsorbed, List.not_mem_nil, false_and, exists_false, or_false]
  | @turn js g j queue _ hq ih =>
    rcases turn_eq_or features area seed taken j queue g with h | ⟨other, hj, h⟩
    · rw [h]
      exact ih
    · have hnew := queues_enqueueCarriers features area seed
        { g with names := g.names ∪ other.names, absorbed := g.absorbed ++ [j], queue } (other.names \ g.names).toList
      rw [h, hnew.names, hnew.absorbed, SortedSet.mem_union, ih]
      simp only [List.mem_append, List.mem_singleton, or_and_right, exists_or, exists_eq_left, hj, Option.some.injEq,
        exists_eq_left', or_assoc]

end Demarcation.Feature
