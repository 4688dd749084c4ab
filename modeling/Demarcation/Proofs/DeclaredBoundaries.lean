import Demarcation.Proofs.FloatOrder
import Demarcation.Proofs.MergedGroups
import Demarcation.Proofs.Proposals
import Demarcation.Proofs.Selection

namespace Demarcation

variable {R : Type}

def NamedAfter (group : List (Candidate R)) (c : Candidate R) : Prop :=
  c.declared = true → ∃ d ∈ group, d.declared = true ∧ c.name = d.name ∧ c.description = d.description

section Naming

theorem find?_declared_of_exists {group : List (Candidate R)} (h : ∃ d ∈ group, d.declared = true) :
    ∃ d ∈ group, d.declared = true ∧ group.find? (·.declared) = some d := by
  obtain ⟨d, hd⟩ := Option.isSome_iff_exists.1 (List.find?_isSome.2 h)
  have hdeclared : d.declared = true := List.find?_some hd
  exact ⟨d, List.mem_of_find?_eq_some hd, hdeclared, hd⟩

variable [Scalar R]

theorem namedAfter_combine (inv : Option Inventory) (c : Candidate R) (cs : List (Candidate R)) :
    NamedAfter (c :: cs) (Candidate.combine inv c cs) := by
  cases cs with
  | nil =>
    intro hdeclared
    rw [Candidate.combine_nil] at hdeclared ⊢
    exact ⟨c, List.mem_cons_self, hdeclared, rfl, rfl⟩
  | cons d ds =>
    intro hdeclared
    obtain ⟨e, he, hed, hfind⟩ := find?_declared_of_exists ((gathers_combine inv c (d :: ds)).declared.1 hdeclared)
    exact ⟨e, he, hed, Candidate.named_combine hfind⟩

theorem keptByCombine_namedAfter (inv : Option Inventory) : KeptByCombine (R := R) inv NamedAfter := by
  intro x xs h hdeclared
  obtain ⟨c, hc, hcd, hname, hdescription⟩ := namedAfter_combine inv x.2 (xs.map (·.2)) hdeclared
  rw [← List.map_cons] at hc
  obtain ⟨y, hy, rfl⟩ := List.mem_map.1 hc
  obtain ⟨d, hd, hdd, hdname, hddescription⟩ := (h y hy).2 hcd
  exact ⟨d, List.mem_flatMap.2 ⟨y, hy, hd⟩, hdd, hname.trans hdname, hdescription.trans hddescription⟩

end Naming

section Selected

variable [Scalar R]

def selectedWith (inv : Inventory) (declared : List UserBoundary) (files : List String) (found : List (Candidate R))
    (maxCandidates : Int) (threshold : R) : List (Candidate R × Boundary R) :=
  Candidate.select inv threshold
    (Candidate.mergeAll (some inv) maxCandidates ((UserBoundary.candidates R inv declared files).1 ++ found))

structure UserBoundary.HeldBy (b : UserBoundary) (inv : Inventory) (analysed : List String) (boundary : Boundary R) :
    Prop where
  files : ∀ f ∈ analysed, b.covers f = true → f ∈ boundary.files
  names : ∀ d ∈ inv.declarations.toList, d.file ∈ analysed → b.covers d.file = true → d.name ∈ boundary.ofKind d.kind

variable {inv : Inventory} {declared : List UserBoundary} {files : List String} {found : List (Candidate R)}
  {maxCandidates : Int} {threshold : R} {b : UserBoundary} {c : Candidate R}

theorem heldBy_toBoundary {group : List (Candidate R)} (hc : Gathers group c)
    (hb : UserBoundary.candidate R inv b (files.filter b.covers) ∈ group) (confidence : R) :
    b.HeldBy inv files (c.toBoundary inv confidence) := by
  refine ⟨?_, ?_⟩
  · intro f hf hcovers
    refine (hc.files f).2 ⟨_, hb, UserBoundary.mem_files_candidate.2 (Or.inr ?_)⟩
    exact List.mem_filter.2 ⟨hf, hcovers⟩
  · intro d hd hf hcovers
    obtain ⟨i, hi⟩ := Inventory.exists_getElem?_of_mem hd
    have hmember : i ∈ (UserBoundary.candidate R inv b (files.filter b.covers)).members :=
      UserBoundary.mem_members_candidate.2 ⟨d, hi, List.mem_filter.2 ⟨hf, hcovers⟩⟩
    refine Candidate.mem_ofKind_toBoundary.2 ⟨d, ?_, rfl, rfl⟩
    exact Inventory.mem_pick_iff.2 ⟨i, (hc.members i).2 ⟨_, hb, hmember⟩, hi⟩

theorem isKept_candidate {covered : List String} (h : covered ≠ []) :
    (UserBoundary.candidate R inv b covered).isKept = true := by
  obtain ⟨f, hf⟩ := List.exists_mem_of_ne_nil _ h
  have hfile : f ∈ (UserBoundary.candidate R inv b covered).files := UserBoundary.mem_files_candidate.2 (Or.inr hf)
  rw [Candidate.isKept, Bool.or_eq_true]
  refine Or.inr ?_
  rw [Bool.not_eq_true']
  exact List.isEmpty_eq_false_iff.2 (List.ne_nil_of_mem hfile)

theorem gathers_and_namedAfter (inv : Option Inventory) :
    KeptByCombine (R := R) inv fun group c => Gathers group c ∧ NamedAfter group c :=
  (keptByCombine_gathers inv).and (keptByCombine_namedAfter inv)

theorem gathers_and_namedAfter_singleton (c : Candidate R) : Gathers [c] c ∧ NamedAfter [c] c :=
  ⟨gathers_combine none c [], namedAfter_combine none c []⟩

theorem exists_selected_of_covers [LawfulScalar R] (hb : b ∈ declared) (hcovers : ∃ f ∈ files, b.covers f = true) :
    ∃ p ∈ selectedWith inv declared files found maxCandidates threshold,
      p.2.declared = true ∧ p.2.confidence = Scalar.ofNat 1 ∧ b.HeldBy inv files p.2 := by
  have hcovered : files.filter b.covers ≠ [] := by
    obtain ⟨f, hf, hbf⟩ := hcovers
    exact List.ne_nil_of_mem (List.mem_filter.2 ⟨hf, hbf⟩)
  have hcandidate : UserBoundary.candidate R inv b (files.filter b.covers) ∈
      (UserBoundary.candidates R inv declared files).1 ++ found :=
    List.mem_append_left _ (UserBoundary.mem_candidates_iff.2 ⟨b, hb, hcovered, rfl⟩)
  obtain ⟨c, hc, group, hgroup, hgathers⟩ : ∃ c ∈ Candidate.mergeAll (some inv) maxCandidates _, ∃ group,
      UserBoundary.candidate R inv b (files.filter b.covers) ∈ group ∧ Gathers group c :=
    Candidate.exists_merged_of_mem (keptByCombine_gathers (some inv)) (fun c _ => gathers_combine none c []) hcandidate
      (isKept_candidate hcovered)
  have hdeclared : c.declared = true := hgathers.declared.2 ⟨_, hgroup, rfl⟩
  exact ⟨_, Candidate.mem_select_of_declared hc hdeclared, hdeclared, LawfulScalar.share_one,
    heldBy_toBoundary hgathers hgroup _⟩

theorem exists_declaration_of_selected (hfound : ∀ c ∈ found, c.declared = false) {p : Candidate R × Boundary R}
    (hp : p ∈ selectedWith inv declared files found maxCandidates threshold) (hdeclared : p.2.declared = true) :
    ∃ b ∈ declared, (∃ f ∈ files, b.covers f = true) ∧ p.2.name = b.name ∧
      (∀ f ∈ files, b.covers f = true → f ∈ p.2.files) ∧ (b.description ≠ "" → p.2.description = b.description) := by
  obtain ⟨hc, confidence, hboundary⟩ := Candidate.mem_of_mem_select hp
  rw [hboundary] at hdeclared ⊢
  obtain ⟨group, hgroup, hgathers, hnamed⟩ := Candidate.exists_group_of_mem_mergeAll
    (gathers_and_namedAfter (some inv)) (fun c _ => gathers_and_namedAfter_singleton c) hc
  obtain ⟨d, hd, hdd, hname, hdescription⟩ := hnamed hdeclared
  -- The declared candidate is none of the further ones, so a declared module made it.
  have huser : d ∈ (UserBoundary.candidates R inv declared files).1 := by
    refine (List.mem_append.1 (hgroup d hd)).resolve_right fun hmem => ?_
    rw [hfound d hmem] at hdd
    cases hdd
  obtain ⟨b, hb, hcovered, rfl⟩ := UserBoundary.mem_candidates_iff.1 huser
  obtain ⟨f, hf⟩ := List.exists_mem_of_ne_nil _ hcovered
  refine ⟨b, hb, ⟨f, List.mem_filter.1 hf⟩, hname, (heldBy_toBoundary hgathers hd confidence).files, ?_⟩
  intro hne
  have hdescribed : p.1.description = b.description := hdescription
  change p.1.summary = b.description
  rw [Candidate.summary, hdescribed, if_neg (by simpa using hne)]

/-- Each declared module that covers some file is found with full confidence and all that it covers, and each boundary
that counts as declared is named and described after one declared module that lies in it. Strategies declare nothing. -/
theorem select_declared [LawfulScalar R] (inv : Inventory) (declared : List UserBoundary) (files : List String)
    (found : List (Candidate R)) (maxCandidates : Int) (threshold : R) :
    (∀ b ∈ declared, (∃ f ∈ files, b.covers f = true) →
      ∃ p ∈ selectedWith inv declared files found maxCandidates threshold,
        p.2.declared = true ∧ p.2.confidence = Scalar.ofNat 1 ∧ b.HeldBy inv files p.2) ∧
      ((∀ c ∈ found, c.declared = false) →
        ∀ p ∈ selectedWith inv declared files found maxCandidates threshold, p.2.declared = true →
          ∃ b ∈ declared, (∃ f ∈ files, b.covers f = true) ∧ p.2.name = b.name ∧
            (∀ f ∈ files, b.covers f = true → f ∈ p.2.files) ∧
              (b.description ≠ "" → p.2.description = b.description)) ∧
        ∀ options, ∀ c ∈ (runStrategies inv options (Strategy.all R)).1, c.declared = false := by
  refine ⟨?_, ?_, ?_⟩
  · intro b hb hcovers
    exact exists_selected_of_covers hb hcovers
  · intro hfound p hp hdeclared
    exact exists_declaration_of_selected hfound hp hdeclared
  · intro options c hc
    exact (isProposal_of_mem_runStrategies hc).not_declared

def ledgerModule : UserBoundary := { name := "ledger", description := "The books", paths := ["ledger/*"] }

def bookkeeping : List (Candidate Float) := [
  { name := "bookkeeping", files := SortedSet.ofList ["ledger/book.go", "tax/rate.go"], cohesion := Scalar.ofNat 1 }]

theorem select_declared_ledger :
    (∃ f ∈ ["ledger/book.go"], ledgerModule.covers f = true) ∧ (∀ c ∈ bookkeeping, c.declared = false) ∧
      (∃ p ∈ selectedWith {} [ledgerModule] ["ledger/book.go"] bookkeeping 400 (Scalar.decimal 99 2),
        p.2.declared = true ∧ p.2.confidence = Scalar.ofNat 1 ∧ ledgerModule.HeldBy {} ["ledger/book.go"] p.2) ∧
      ∀ p ∈ selectedWith {} [ledgerModule] ["ledger/book.go"] bookkeeping 400 (Scalar.decimal 99 2),
        p.2.declared = true → p.2.name = "ledger" ∧ p.2.description = "The books" := by
  have hcovers : ∃ f ∈ ["ledger/book.go"], ledgerModule.covers f = true := ⟨_, List.mem_cons_self, by cbv⟩
  have hfound : ∀ c ∈ bookkeeping, c.declared = false := by simp [bookkeeping]
  obtain ⟨hheld, hnamed, -⟩ :=
    select_declared {} [ledgerModule] ["ledger/book.go"] bookkeeping 400 (Scalar.decimal 99 2)
  refine ⟨hcovers, hfound, hheld ledgerModule List.mem_cons_self hcovers, ?_⟩
  intro p hp hdeclared
  obtain ⟨b, hb, -, hname, -, hdescription⟩ := hnamed hfound p hp hdeclared
  obtain rfl := List.mem_singleton.1 hb
  exact ⟨hname, hdescription (by decide)⟩

end Selected

end Demarcation
