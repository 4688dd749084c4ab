import Demarcation.Proofs.MergedGroups
import Demarcation.Proofs.NameResolution
import Demarcation.Proofs.Proposals
import Demarcation.Proofs.Selection

namespace Demarcation

variable {R : Type}

structure Grounded (inv : Inventory) (c : Candidate R) : Prop where
  covers : ∀ f ∈ inv.filesOf c.members, f ∈ c.files
  exactly : c.declared = false → inv.filesOf c.members = c.files
  known : ∀ f ∈ c.files, f ∈ inv.files
  externals : c.externals = inv.externalNames c.members inv.declaredNames
  accesses : ∀ a ∈ c.accesses, ∃ i ∈ c.members, IsAccessor inv a i

section Producers

variable [Scalar R] {inv : Inventory}

theorem filesOf_subset (hfiles : ∀ d ∈ inv.declarations.toList, d.file ∈ inv.files) {members : SortedSet Nat} :
    ∀ f ∈ inv.filesOf members, f ∈ inv.files := by
  intro f hf
  obtain ⟨i, -, d, hd, rfl⟩ := Inventory.mem_filesOf_iff.1 hf
  exact hfiles d (Inventory.mem_declarations_of_getElem? hd)

theorem IsProposal.grounded (hfiles : ∀ d ∈ inv.declarations.toList, d.file ∈ inv.files)
    (haccess : ∀ a ∈ inv.accesses, ∃ i, IsAccessor inv a i) {c : Candidate R} (h : IsProposal inv c) :
    Grounded inv c := by
  obtain ⟨source, name, members, keywords, cohesion, accesses, haccesses, rfl⟩ := h
  have heq := files_ofMembers inv source name members keywords cohesion
  refine ⟨?_, ?_, ?_, rfl, ?_⟩
  · intro f hf
    exact heq ▸ hf
  · intro _
    exact heq.symm
  · intro f hf
    exact filesOf_subset hfiles f (heq ▸ hf)
  · intro a ha
    obtain ⟨hmem, hin⟩ := haccesses a ha
    obtain ⟨i, hi⟩ := haccess a hmem
    exact ⟨i, SortedSet.mem_ofList.2 (hin i (mem_accessors_iff.2 hi)), hi⟩

theorem grounded_candidate (hfiles : ∀ d ∈ inv.declarations.toList, d.file ∈ inv.files) {b : UserBoundary}
    {covered : List String} (hcovered : ∀ f ∈ covered, f ∈ inv.files) :
    Grounded inv (UserBoundary.candidate R inv b covered) := by
  refine ⟨?_, ?_, ?_, rfl, ?_⟩
  · intro f hf
    exact UserBoundary.mem_files_candidate.2 (Or.inl hf)
  · intro hdeclared
    cases hdeclared
  · intro f hf
    rcases UserBoundary.mem_files_candidate.1 hf with hf | hf
    · exact filesOf_subset hfiles f hf
    · exact hcovered f hf
  · intro a ha
    exact absurd ha SortedSet.not_mem_empty

end Producers

section Combined

variable {inv : Inventory}

theorem Gathers.mem_filesOf_iff {group : List (Candidate R)} {c : Candidate R} (h : Gathers group c) {f : String} :
    f ∈ inv.filesOf c.members ↔ ∃ d ∈ group, f ∈ inv.filesOf d.members := by
  simp only [Inventory.mem_filesOf_iff, h.members]
  constructor
  · rintro ⟨i, ⟨d, hd, hi⟩, hf⟩
    exact ⟨d, hd, i, hi, hf⟩
  · rintro ⟨d, hd, i, hi, hf⟩
    exact ⟨i, ⟨d, hd, hi⟩, hf⟩

variable [Scalar R]

theorem externals_combine (c : Candidate R) {cs : List (Candidate R)} (h : cs ≠ []) :
    (Candidate.combine (some inv) c cs).externals =
      inv.externalNames (Candidate.combine (some inv) c cs).members inv.declaredNames := by
  cases cs with
  | nil => exact absurd rfl h
  | cons d ds => rfl

theorem grounded_combine (c : Candidate R) (cs : List (Candidate R)) (h : ∀ d ∈ c :: cs, Grounded inv d) :
    Grounded inv (Candidate.combine (some inv) c cs) := by
  by_cases hcs : cs = []
  · rw [hcs, Candidate.combine_nil]
    exact h c List.mem_cons_self
  have hgathers := gathers_combine (some inv) c cs
  refine ⟨?_, ?_, ?_, externals_combine c hcs, ?_⟩
  · intro f hf
    obtain ⟨d, hd, hf⟩ := hgathers.mem_filesOf_iff.1 hf
    exact (hgathers.files f).2 ⟨d, hd, (h d hd).covers f hf⟩
  · intro hundeclared
    have hall : ∀ d ∈ c :: cs, d.declared = false := by
      intro d hd
      rw [← Bool.not_eq_true]
      intro hdeclared
      rw [hgathers.declared.2 ⟨d, hd, hdeclared⟩] at hundeclared
      cases hundeclared
    apply SortedSet.ext
    intro f
    rw [hgathers.mem_filesOf_iff, hgathers.files]
    refine exists_congr fun d => and_congr_right fun hd => ?_
    rw [(h d hd).exactly (hall d hd)]
  · intro f hf
    obtain ⟨d, hd, hf⟩ := (hgathers.files f).1 hf
    exact (h d hd).known f hf
  · intro a ha
    obtain ⟨d, hd, ha⟩ := (hgathers.accesses a).1 ha
    obtain ⟨i, hi, haccessor⟩ := (h d hd).accesses a ha
    exact ⟨i, (hgathers.members i).2 ⟨d, hd, hi⟩, haccessor⟩

end Combined

section Boundaries

variable [Scalar R] {inv : Inventory}

theorem Grounded.not_mem_declarations {c : Candidate R} (h : Grounded inv c) {confidence : R} {name : String}
    (hname : name ∈ (c.toBoundary inv confidence).dependencies) :
    name ∉ (c.toBoundary inv confidence).declarations := by
  intro hdeclares
  obtain ⟨kind, hkind⟩ := Boundary.mem_declarations_iff.1 hdeclares
  obtain ⟨d, hd, -, rfl⟩ := Candidate.mem_ofKind_toBoundary.1 hkind
  have hexternal : d.name ∈ c.externals := hname
  rw [h.externals, Inventory.externalNames_eq] at hexternal
  obtain ⟨-, houtside⟩ := SortedSet.mem_sdiff.1 hexternal
  exact houtside (SortedSet.mem_ofList.2 (List.mem_map_of_mem hd))

end Boundaries

section Merged

def mergedProposals (R : Type) [Scalar R] (inv : Inventory) (options : ClusteringOptions) (declared : List UserBoundary)
    (analysed : List String) (maxCandidates : Int) : List (Candidate R) :=
  Candidate.mergeAll (some inv) maxCandidates
    ((UserBoundary.candidates R inv declared analysed).1 ++ (runStrategies inv options (Strategy.all R)).1)

variable [Scalar R] {inv : Inventory} {declarations : List Declaration} {accesses : List Access}
  {files analysed : List String}

theorem grounded_mergedProposals (hfiles : ∀ d ∈ inv.declarations.toList, d.file ∈ inv.files)
    (haccess : ∀ a ∈ inv.accesses, ∃ i, IsAccessor inv a i) (options : ClusteringOptions) (declared : List UserBoundary)
    (hanalysed : ∀ f ∈ analysed, f ∈ inv.files) (maxCandidates : Int) :
    ∀ c ∈ mergedProposals R inv options declared analysed maxCandidates, Grounded inv c := by
  apply Candidate.forall_mem_mergeAll grounded_combine
  intro c hc
  rcases List.mem_append.1 hc with hc | hc
  · obtain ⟨b, -, -, rfl⟩ := UserBoundary.mem_candidates_iff.1 hc
    exact grounded_candidate hfiles fun f hf => hanalysed f (List.mem_of_mem_filter hf)
  · exact (isProposal_of_mem_runStrategies hc).grounded hfiles haccess

/-- Merged candidates agree with their members, if each table access is by a declared function. So no boundary depends on
a name that it declares. -/
theorem mergeAll_grounded (hbuilt : inv = Inventory.build declarations accesses files)
    (haccess : ∀ a ∈ inv.accesses, ∃ d ∈ inv.declarations.toList,
      d.isFunction = true ∧ d.name = a.function ∧ d.file = a.file)
    (options : ClusteringOptions) (declared : List UserBoundary) (hanalysed : ∀ f ∈ analysed, f ∈ inv.files)
    (maxCandidates : Int) :
    (∀ c ∈ mergedProposals R inv options declared analysed maxCandidates, Grounded inv c) ∧
      ∀ threshold, ∀ p ∈ Candidate.select inv threshold (mergedProposals R inv options declared analysed maxCandidates),
        ∀ name ∈ p.2.dependencies, name ∉ p.2.declarations := by
  have hfiles : ∀ d ∈ inv.declarations.toList, d.file ∈ inv.files := by
    rw [hbuilt]
    exact fun d hd => Inventory.file_mem_build hd
  have haccessor : ∀ a ∈ inv.accesses, ∃ i, IsAccessor inv a i := by
    intro a ha
    obtain ⟨d, hd, hby⟩ := haccess a ha
    obtain ⟨i, hi⟩ := List.getElem?_of_mem hd
    rw [Array.getElem?_toList] at hi
    exact ⟨i, d, hi, hby⟩
  have hgrounded : ∀ c ∈ mergedProposals R inv options declared analysed maxCandidates, Grounded inv c :=
    grounded_mergedProposals hfiles haccessor options declared hanalysed maxCandidates
  refine ⟨hgrounded, ?_⟩
  intro threshold p hp name hname
  obtain ⟨hc, confidence, hboundary⟩ := Candidate.mem_of_mem_select hp
  rw [hboundary] at hname ⊢
  exact (hgrounded p.1 hc).not_mem_declarations hname

def billingFunctions : List Declaration := [
  { kind := .function, name := "chargeInvoice", file := "billing/charge.go", line := 3, calls := ["loadInvoice"] },
  { kind := .function, name := "loadInvoice", file := "billing/store.go", line := 8 }]

def billingAccesses : List Access := [
  { table := "invoices", operation := .update, file := "billing/charge.go", function := "chargeInvoice" },
  { table := "invoices", operation := .select, file := "billing/store.go", function := "loadInvoice" }]

theorem mergeAll_grounded_billing :
    (∀ a ∈ (Inventory.build billingFunctions billingAccesses []).accesses,
      ∃ d ∈ (Inventory.build billingFunctions billingAccesses []).declarations.toList,
        d.isFunction = true ∧ d.name = a.function ∧ d.file = a.file) ∧
      ∀ c ∈ mergedProposals Float (Inventory.build billingFunctions billingAccesses []) {}
        [{ name := "billing", paths := ["billing/*"] }] ["billing/charge.go"] 400,
        Grounded (Inventory.build billingFunctions billingAccesses []) c := by
  have haccess : ∀ a ∈ (Inventory.build billingFunctions billingAccesses []).accesses,
      ∃ d ∈ (Inventory.build billingFunctions billingAccesses []).declarations.toList,
        d.isFunction = true ∧ d.name = a.function ∧ d.file = a.file := by
    simp only [Inventory.mem_accesses_build, Inventory.mem_declarations_build]
    decide
  have hanalysed : ∀ f ∈ ["billing/charge.go"], f ∈ (Inventory.build billingFunctions billingAccesses []).files := by
    intro f hf
    rw [List.mem_singleton.1 hf]
    exact Inventory.file_mem_build (Inventory.mem_declarations_build.2 List.mem_cons_self)
  exact ⟨haccess, (mergeAll_grounded rfl haccess {} _ hanalysed 400).1⟩

end Merged

end Demarcation
