import Demarcation.Proofs.Regrouping

namespace Demarcation

variable {R : Type}

namespace Regroups

variable {p : List (Candidate R) → Candidate R → Prop} {inputs outputs : List (Candidate R)} {groups : List (List Nat)}

theorem mem_of_mem_filterMap {g : List Nat} {d : Candidate R} (h : d ∈ g.filterMap (inputs[·]?)) : d ∈ inputs := by
  obtain ⟨i, -, hi⟩ := List.mem_filterMap.1 h
  exact List.mem_of_getElem? hi

theorem exists_group (h : Regroups p inputs outputs groups) {c : Candidate R} (hc : c ∈ outputs) :
    ∃ group, (∀ d ∈ group, d ∈ inputs) ∧ p group c := by
  obtain ⟨n, hn, rfl⟩ := List.getElem_of_mem hc
  have hg : n < groups.length := by rwa [h.outputs.length_eq]
  exact ⟨_, fun _ => mem_of_mem_filterMap, h.outputs.get hg hn⟩

theorem exists_output (h : Regroups p inputs outputs groups) {d : Candidate R} (hd : d ∈ inputs) :
    ∃ c ∈ outputs, ∃ group, d ∈ group ∧ (∀ e ∈ group, e ∈ inputs) ∧ p group c := by
  obtain ⟨i, hi, rfl⟩ := List.getElem_of_mem hd
  obtain ⟨g, hg, hig⟩ := List.mem_flatten.1 (h.partition.mem_iff.2 (List.mem_range.2 hi))
  obtain ⟨n, hn, rfl⟩ := List.getElem_of_mem hg
  have hc : n < outputs.length := by rwa [← h.outputs.length_eq]
  refine ⟨outputs[n], List.getElem_mem hc, _, ?_, fun _ => mem_of_mem_filterMap, h.outputs.get hn hc⟩
  exact List.mem_filterMap.2 ⟨i, hig, List.getElem?_eq_getElem hi⟩

end Regroups

namespace Candidate

variable {candidates : List (Candidate R)}

theorem mem_mergeOrder {maxCandidates : Int} {c : Candidate R} :
    c ∈ mergeOrder maxCandidates candidates ↔ c ∈ candidates ∧ c.isKept = true :=
  (inMergeOrder_mergeOrder maxCandidates candidates).perm.mem_iff.trans List.mem_filter

variable [Scalar R] {inv : Option Inventory} {maxCandidates : Int} {p : List (Candidate R) → Candidate R → Prop}

theorem named_combine {c d e : Candidate R} {ds : List (Candidate R)}
    (h : (c :: d :: ds).find? (·.declared) = some e) :
    (combine inv c (d :: ds)).name = e.name ∧ (combine inv c (d :: ds)).description = e.description := by
  refine ⟨?_, ?_⟩
  · change mergedName c (d :: ds) = e.name
    rw [mergedName, h]
  · change (((c :: d :: ds).find? (·.declared)).map (·.description)).getD "" = e.description
    rw [h]
    rfl

theorem exists_group_of_mem_mergeAll (hp : KeptByCombine inv p) (hstart : ∀ c ∈ candidates, p [c] c)
    {c : Candidate R} (hc : c ∈ mergeAll inv maxCandidates candidates) :
    ∃ group, (∀ d ∈ group, d ∈ candidates) ∧ p group c := by
  obtain ⟨groups, hgroups⟩ := exists_regroups_mergeAll maxCandidates hp hstart
  obtain ⟨group, hgroup, hpc⟩ := hgroups.exists_group hc
  exact ⟨group, fun d hd => (mem_mergeOrder.1 (hgroup d hd)).1, hpc⟩

theorem exists_merged_of_mem (hp : KeptByCombine inv p) (hstart : ∀ c ∈ candidates, p [c] c) {d : Candidate R}
    (hd : d ∈ candidates) (hkept : d.isKept = true) :
    ∃ c ∈ mergeAll inv maxCandidates candidates, ∃ group, d ∈ group ∧ p group c := by
  obtain ⟨groups, hgroups⟩ := exists_regroups_mergeAll maxCandidates hp hstart
  obtain ⟨c, hc, group, hdg, -, hpc⟩ := hgroups.exists_output (mem_mergeOrder.2 ⟨hd, hkept⟩)
  exact ⟨c, hc, group, hdg, hpc⟩

theorem forall_mem_mergeAll {q : Candidate R → Prop}
    (hcombine : ∀ c cs, (∀ d ∈ c :: cs, q d) → q (combine inv c cs)) (hstart : ∀ c ∈ candidates, q c) :
    ∀ c ∈ mergeAll inv maxCandidates candidates, q c := by
  have hkept : KeptByCombine inv fun _ c => q c := by
    intro x xs h
    apply hcombine
    rw [← List.map_cons, List.forall_mem_map]
    exact fun y hy => (h y hy).2
  intro c hc
  obtain ⟨-, -, hqc⟩ := exists_group_of_mem_mergeAll hkept hstart hc
  exact hqc

end Candidate

end Demarcation
