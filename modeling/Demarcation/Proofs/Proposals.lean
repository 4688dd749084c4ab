import Demarcation.UserBoundary
import Demarcation.Proofs.Grouping
import Demarcation.Proofs.InventoryMembers

namespace Demarcation

variable {R : Type} [Scalar R] {inv : Inventory} {options : ClusteringOptions} {c : Candidate R}

section Strategies

def IsProposal (inv : Inventory) (c : Candidate R) : Prop :=
  ∃ (source name : String) (members : List Nat) (keywords : SortedSet String) (cohesion : R)
    (accesses : SortedSet Access),
      (∀ a ∈ accesses, a ∈ inv.accesses ∧ ∀ i ∈ accessors inv a, i ∈ members) ∧
        c = { Candidate.ofMembers inv source name members keywords cohesion with accesses }

theorem isProposal_ofMembers (inv : Inventory) (source name : String) (members : List Nat)
    (keywords : SortedSet String) (cohesion : R) :
    IsProposal inv (Candidate.ofMembers inv source name members keywords cohesion) :=
  ⟨source, name, members, keywords, cohesion, ∅, fun _ ha => absurd ha SortedSet.not_mem_empty, rfl⟩

theorem files_ofMembers (inv : Inventory) (source name : String) (members : List Nat) (keywords : SortedSet String)
    (cohesion : R) :
    (Candidate.ofMembers inv source name members keywords cohesion).files = inv.filesOf (SortedSet.ofList members) := by
  apply SortedSet.ext
  intro f
  exact SortedSet.mem_union.trans (or_iff_right SortedSet.not_mem_empty)

theorem IsProposal.not_declared (h : IsProposal inv c) : c.declared = false := by
  obtain ⟨-, -, -, -, -, -, -, rfl⟩ := h
  rfl

theorem isProposal_of_mem_semanticClusters (h : c ∈ semanticClusters R inv options) : IsProposal inv c := by
  obtain ⟨g, -, rfl⟩ := List.mem_map.1 h
  exact isProposal_ofMembers ..

theorem isProposal_of_mem_directoryClusters (h : c ∈ directoryClusters R inv options) : IsProposal inv c := by
  obtain ⟨g, -, rfl⟩ := List.mem_map.1 h
  exact isProposal_ofMembers ..

theorem isProposal_of_mem_dependencyClusters {found : List (Candidate R)}
    (hfound : dependencyClusters R inv options = .ok found) (h : c ∈ found) : IsProposal inv c := by
  rw [dependencyClusters] at hfound
  cases hsample : strideSample inv.entries options.maxDependencyNodes with
  | error fault =>
    rw [hsample] at hfound
    cases hfound
  | ok sample =>
    rw [hsample] at hfound
    obtain rfl := Except.ok.inj hfound
    obtain ⟨g, -, rfl⟩ := List.mem_map.1 h
    exact isProposal_ofMembers ..

theorem mem_accessors_of_table {table : String} {members : List Nat}
    (h : (table, members) ∈ (groupsBy (·.table) inv.accesses.toList).map fun g =>
      (g.1, (g.2.flatMap (accessors inv)).eraseDups)) :
    ∀ a ∈ inv.accesses.filter (·.table == table), a ∈ inv.accesses ∧ ∀ i ∈ accessors inv a, i ∈ members := by
  obtain ⟨g, hg, heq⟩ := List.mem_map.1 h
  obtain ⟨rfl, rfl⟩ := Prod.mk.inj heq
  intro a ha
  obtain ⟨ha, htable⟩ := SortedSet.mem_filter.1 ha
  refine ⟨ha, ?_⟩
  intro i hi
  rw [List.mem_eraseDups, List.mem_flatMap, (mem_groupsBy_iff.1 hg).2]
  exact ⟨a, List.mem_filter.2 ⟨ha, htable⟩, hi⟩

theorem isProposal_of_mem_databaseClusters (h : c ∈ databaseClusters R inv options) : IsProposal inv c := by
  obtain ⟨⟨table, members⟩, hg, rfl⟩ := List.mem_map.1 h
  have haccess := mem_accessors_of_table (List.mem_filter.1 hg).1
  cases hwords : Text.nameTokens table with
  | nil =>
    simp only [hwords]
    exact ⟨_, _, members, _, _, _, haccess, rfl⟩
  | cons word words =>
    simp only [hwords]
    exact ⟨_, _, members, _, _, _, haccess, rfl⟩

theorem mem_runStrategies_iff {strategies : List (Strategy R)} :
    c ∈ (runStrategies inv options strategies).1 ↔
      ∃ s ∈ strategies, ∃ found, s.propose inv options = .ok found ∧ c ∈ found := by
  rw [runStrategies, List.mem_flatMap]
  simp only [List.mem_map, exists_exists_and_eq_and]
  refine exists_congr fun s => and_congr_right fun _ => ?_
  cases s.propose inv options with
  | error fault => simp
  | ok found => simp

theorem isProposal_of_mem_runStrategies (h : c ∈ (runStrategies inv options (Strategy.all R)).1) : IsProposal inv c := by
  obtain ⟨s, hs, found, hfound, hc⟩ := mem_runStrategies_iff.1 h
  simp only [Strategy.all, List.mem_cons, List.not_mem_nil, or_false] at hs
  rcases hs with rfl | rfl | rfl | rfl
  · obtain ⟨keywords, -, hfound⟩ := exists_of_bind_eq_ok hfound
    obtain rfl := Except.ok.inj hfound
    exact isProposal_of_mem_semanticClusters hc
  · obtain ⟨limit, -, hfound⟩ := exists_of_bind_eq_ok hfound
    exact isProposal_of_mem_dependencyClusters hfound hc
  · obtain rfl := Except.ok.inj hfound
    exact isProposal_of_mem_databaseClusters hc
  · obtain rfl := Except.ok.inj hfound
    exact isProposal_of_mem_directoryClusters hc

end Strategies

namespace UserBoundary

variable {b : UserBoundary} {covered files : List String}

theorem mem_candidates_iff {declared : List UserBoundary} :
    c ∈ (candidates R inv declared files).1 ↔
      ∃ b ∈ declared, files.filter b.covers ≠ [] ∧ candidate R inv b (files.filter b.covers) = c := by
  rw [candidates, List.mem_map]
  simp only [List.mem_filter, List.mem_map]
  constructor
  · rintro ⟨-, ⟨⟨b, hb, rfl⟩, hne⟩, rfl⟩
    exact ⟨b, hb, by simpa using hne, rfl⟩
  · rintro ⟨b, hb, hne, rfl⟩
    exact ⟨_, ⟨⟨b, hb, rfl⟩, by simpa using hne⟩, rfl⟩

theorem mem_files_candidate {f : String} :
    f ∈ (candidate R inv b covered).files ↔ f ∈ inv.filesOf (candidate R inv b covered).members ∨ f ∈ covered := by
  refine SortedSet.mem_union.trans (or_congr ?_ SortedSet.mem_ofList)
  rw [files_ofMembers]
  rfl

theorem mem_members_candidate {i : Nat} :
    i ∈ (candidate R inv b covered).members ↔ ∃ d, inv.declarations[i]? = some d ∧ d.file ∈ covered := by
  refine SortedSet.mem_ofList.trans ?_
  rw [List.mem_filter, Inventory.positions, List.mem_range, Option.any_eq_true]
  simp only [List.contains_iff_mem]
  refine and_iff_right_of_imp ?_
  rintro ⟨d, hd, -⟩
  exact (Array.getElem?_eq_some_iff.1 hd).1

end UserBoundary

end Demarcation
