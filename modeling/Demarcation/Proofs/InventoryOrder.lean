import Mathlib.Data.List.Nodup
import Mathlib.Data.Prod.Lex
import Mathlib.Data.String.Basic
import Demarcation.Language.Extraction
import Demarcation.Proofs.Grouping
import Demarcation.Proofs.InventoryMembers
import Demarcation.Proofs.Umbrellas

namespace Demarcation

namespace Declaration

def place (d : Declaration) : String ×ₗ Int ×ₗ String ×ₗ String :=
  toLex (d.file, toLex (d.line, toLex (d.name, d.kind.name)))

theorem before_iff {d e : Declaration} : d.before e = true ↔ d.place < e.place := by
  rw [before, place, place, Prod.Lex.toLex_lt_toLex, Prod.Lex.toLex_lt_toLex, Prod.Lex.toLex_lt_toLex]
  by_cases hfile : d.file = e.file
  · by_cases hline : d.line = e.line
    · by_cases hname : d.name = e.name
      · simp [hfile, hline, hname]
      · simp [hfile, hline, hname]
    · simp [hfile, hline]
  · simp [hfile]

end Declaration

open Declaration

namespace Inventory

def SeparatePlaces (declarations : List Declaration) : Prop :=
  ∀ d ∈ declarations, ∀ e ∈ declarations, d.place = e.place → d = e

variable {declarations declarations' : List Declaration} {accesses accesses' : List Access}
  {files files' : List String}

theorem eq_of_parts {inv inv' : Inventory} (hdeclarations : inv.declarations = inv'.declarations)
    (haccesses : inv.accesses = inv'.accesses) (hfiles : inv.files = inv'.files) : inv = inv' := by
  cases inv
  cases inv'
  cases hdeclarations
  cases haccesses
  cases hfiles
  rfl

section Sorted

theorem declarations_build_eq :
    (build declarations accesses files).declarations.toList =
      declarations.eraseDups.mergeSort fun d e => d.place ≤ e.place := by
  have hsort : declarations.eraseDups.mergeSort (fun d e => !e.before d) =
      declarations.eraseDups.mergeSort fun d e => d.place ≤ e.place := by
    congr 1
    funext d e
    rw [Bool.eq_iff_iff, Bool.not_eq_true', ← Bool.not_eq_true, before_iff, not_lt, decide_eq_true_eq]
  exact hsort

theorem pairwise_declarations_build :
    (build declarations accesses files).declarations.toList.Pairwise fun d e => d.place ≤ e.place := by
  rw [declarations_build_eq]
  exact pairwise_mergeSort_of_key place _

theorem nodup_declarations_build : (build declarations accesses files).declarations.toList.Nodup := by
  rw [declarations_build_eq, (List.mergeSort_perm _ _).nodup_iff]
  exact nodup_eraseDups _

theorem mem_files_build {f : String} :
    f ∈ (build declarations accesses files).files ↔ f ∈ files ∨ ∃ d ∈ declarations, d.file = f := by
  rw [build, SortedSet.mem_ofList, List.mem_append, List.mem_map]

theorem pairwise_place_lt_iff :
    ((build declarations accesses files).declarations.toList.Pairwise fun d e => d.place < e.place) ↔
      SeparatePlaces declarations := by
  constructor
  · intro h d hd e he heq
    have hd' : d ∈ (build declarations accesses files).declarations.toList := mem_declarations_build.2 hd
    have he' : e ∈ (build declarations accesses files).declarations.toList := mem_declarations_build.2 he
    have hnodup : ((build declarations accesses files).declarations.toList.map place).Nodup :=
      List.pairwise_map.2 (h.imp ne_of_lt)
    exact List.inj_on_of_nodup_map hnodup hd' he' heq
  · intro h
    refine (pairwise_declarations_build.and nodup_declarations_build).imp_of_mem ?_
    intro d e hd he hde
    exact lt_of_le_of_ne hde.1 fun heq =>
      hde.2 (h d (mem_declarations_build.1 hd) e (mem_declarations_build.1 he) heq)

end Sorted

section Members

variable (hdeclarations : ∀ d, d ∈ declarations' ↔ d ∈ declarations)

include hdeclarations

theorem declarations_build_perm :
    (build declarations' accesses' files').declarations.toList.Perm
      (build declarations accesses files).declarations.toList := by
  apply (List.perm_ext_iff_of_nodup nodup_declarations_build nodup_declarations_build).2
  intro d
  rw [mem_declarations_build, mem_declarations_build, hdeclarations]

theorem places_build_eq :
    (build declarations' accesses' files').declarations.toList.map place =
      (build declarations accesses files).declarations.toList.map place := by
  apply List.Perm.eq_of_pairwise
  · intro p q _ _
    exact le_antisymm
  · exact List.pairwise_map.2 pairwise_declarations_build
  · exact List.pairwise_map.2 pairwise_declarations_build
  · exact (declarations_build_perm hdeclarations).map place

theorem declarations_build_congr (h : SeparatePlaces declarations) :
    (build declarations' accesses' files').declarations = (build declarations accesses files).declarations := by
  apply Array.toList_inj.1
  refine List.Perm.eq_of_pairwise ?_ pairwise_declarations_build pairwise_declarations_build
    (declarations_build_perm hdeclarations)
  intro d e hd he hde hed
  exact h d ((hdeclarations d).1 (mem_declarations_build.1 hd)) e (mem_declarations_build.1 he) (le_antisymm hde hed)

end Members

theorem accesses_build_congr (haccesses : ∀ a, a ∈ accesses' ↔ a ∈ accesses) :
    (build declarations' accesses' files').accesses = (build declarations accesses files).accesses := by
  apply SortedSet.ext
  intro a
  rw [mem_accesses_build, mem_accesses_build, haccesses]

theorem files_build_congr (hdeclarations : ∀ d, d ∈ declarations' ↔ d ∈ declarations)
    (hfiles : ∀ f, f ∈ files' ↔ f ∈ files) :
    (build declarations' accesses' files').files = (build declarations accesses files).files := by
  apply SortedSet.ext
  intro f
  rw [mem_files_build, mem_files_build, hfiles]
  simp only [hdeclarations]

section Ties

theorem sublist_build_cons_cons {d e : Declaration} (hne : d ≠ e) (hle : d.place ≤ e.place) :
    [d, e].Sublist (build (d :: e :: declarations) accesses files).declarations.toList := by
  rw [declarations_build_eq]
  apply List.pair_sublist_mergeSort
  · intro a b c hab hbc
    exact decide_eq_true (le_trans (of_decide_eq_true hab) (of_decide_eq_true hbc))
  · intro a b
    simpa only [Bool.or_eq_true, decide_eq_true_eq] using le_total a.place b.place
  · exact decide_eq_true hle
  · have hkept : (e :: declarations).filter (fun b => !b == d) = e :: declarations.filter fun b => !b == d :=
      List.filter_cons_of_pos (by simpa using Ne.symm hne)
    rw [List.eraseDups_cons, hkept, List.eraseDups_cons]
    exact ((List.nil_sublist _).cons_cons e).cons_cons d

theorem eq_of_sublist_of_nodup {l : List Declaration} {d e : Declaration} (hl : l.Nodup) (hde : [d, e].Sublist l)
    (hed : [e, d].Sublist l) : d = e := by
  induction l with
  | nil => cases hde
  | cons a l ih =>
    obtain ⟨ha, hl⟩ := List.nodup_cons.1 hl
    cases hde with
    | cons _ hde =>
      cases hed with
      | cons _ hed => exact ih hl hde hed
      | cons_cons _ hd => exact absurd (hde.subset (List.mem_cons_of_mem d List.mem_cons_self)) ha
    | cons_cons _ he =>
      cases hed with
      | cons _ hed => exact absurd (hed.subset (List.mem_cons_of_mem e List.mem_cons_self)) ha
      | cons_cons _ hd => rfl

theorem separatePlaces_of_canonical
    (h : ∀ more, (∀ d, d ∈ more ↔ d ∈ declarations) → build more accesses files = build declarations accesses files) :
    SeparatePlaces declarations := by
  intro d hd e he hplace
  by_contra hne
  have hmembers {a b : Declaration} (ha : a ∈ declarations) (hb : b ∈ declarations) :
      ∀ c, c ∈ a :: b :: declarations ↔ c ∈ declarations := by
    intro c
    constructor
    · intro hc
      rcases List.mem_cons.1 hc with rfl | hc
      · exact ha
      · rcases List.mem_cons.1 hc with rfl | hc
        · exact hb
        · exact hc
    · exact fun hc => List.mem_cons_of_mem a (List.mem_cons_of_mem b hc)
  have hde : [d, e].Sublist (build declarations accesses files).declarations.toList := by
    rw [← h _ (hmembers hd he)]
    exact sublist_build_cons_cons hne (le_of_eq hplace)
  have hed : [e, d].Sublist (build declarations accesses files).declarations.toList := by
    rw [← h _ (hmembers he hd)]
    exact sublist_build_cons_cons (Ne.symm hne) (le_of_eq hplace.symm)
  exact hne (eq_of_sublist_of_nodup nodup_declarations_build hde hed)

end Ties

/-- An inventory lists its declarations by place, each once, and its accesses and files in order. The places, the accesses
and the files depend only on what is given, not on its order or repetitions. The declarations do, and their places are
strictly increasing, just when no two of them are at one place. -/
theorem build_order_iff (declarations : List Declaration) (accesses : List Access) (files : List String) :
    let inv := build declarations accesses files
    ((∀ d, d ∈ inv.declarations.toList ↔ d ∈ declarations) ∧ inv.declarations.toList.Nodup ∧
      inv.declarations.toList.Pairwise fun d e => d.place ≤ e.place) ∧
    ((∀ a, a ∈ inv.accesses ↔ a ∈ accesses) ∧ inv.accesses.toList.Pairwise fun a b => a.key < b.key) ∧
    ((∀ f, f ∈ inv.files ↔ f ∈ files ∨ ∃ d ∈ declarations, d.file = f) ∧
      inv.files.toList.Pairwise (· < ·)) ∧
    (∀ declarations' accesses' files', (∀ d, d ∈ declarations' ↔ d ∈ declarations) →
      (∀ a, a ∈ accesses' ↔ a ∈ accesses) → (∀ f, f ∈ files' ↔ f ∈ files) →
        let inv' := build declarations' accesses' files'
        inv'.declarations.toList.map place = inv.declarations.toList.map place ∧
          inv'.declarations.toList.Perm inv.declarations.toList ∧ inv'.accesses = inv.accesses ∧
            inv'.files = inv.files ∧ (SeparatePlaces declarations → inv' = inv)) ∧
    ((inv.declarations.toList.Pairwise fun d e => d.place < e.place) ↔ SeparatePlaces declarations) ∧
    ((∀ declarations', (∀ d, d ∈ declarations' ↔ d ∈ declarations) → build declarations' accesses files = inv) ↔
      SeparatePlaces declarations) := by
  intro inv
  have hcongr : ∀ declarations' accesses' files', (∀ d, d ∈ declarations' ↔ d ∈ declarations) →
      (∀ a, a ∈ accesses' ↔ a ∈ accesses) → (∀ f, f ∈ files' ↔ f ∈ files) → SeparatePlaces declarations →
        build declarations' accesses' files' = inv := by
    intro declarations' accesses' files' hdeclarations haccesses hfiles hseparate
    apply eq_of_parts
    · exact declarations_build_congr hdeclarations hseparate
    · exact accesses_build_congr haccesses
    · exact files_build_congr hdeclarations hfiles
  refine ⟨⟨fun d => mem_declarations_build, nodup_declarations_build, pairwise_declarations_build⟩,
    ⟨fun a => mem_accesses_build, inv.accesses.ascending⟩, ⟨fun f => mem_files_build, inv.files.ascending⟩, ?_,
    pairwise_place_lt_iff, ?_⟩
  · intro declarations' accesses' files' hdeclarations haccesses hfiles
    exact ⟨places_build_eq hdeclarations, declarations_build_perm hdeclarations, accesses_build_congr haccesses,
      files_build_congr hdeclarations hfiles, hcongr _ _ _ hdeclarations haccesses hfiles⟩
  · constructor
    · exact separatePlaces_of_canonical
    · intro hseparate declarations' hdeclarations
      exact hcongr _ _ _ hdeclarations (fun _ => Iff.rfl) (fun _ => Iff.rfl) hseparate

def initFunctionsText : String := "package store\n\nfunc init() { openStore() }; func init() { loadRates() }\n"

def initFunctions : List Declaration := [
  { kind := .function, name := "init", file := "store/a.go", line := 3, calls := ["openStore"] },
  { kind := .function, name := "init", file := "store/a.go", line := 3, calls := ["loadRates"] }]

theorem not_separatePlaces_initFunctions : ¬ SeparatePlaces initFunctions := by
  intro h
  have heq := h _ List.mem_cons_self _ (List.mem_cons_of_mem _ List.mem_cons_self) rfl
  exact absurd heq (by decide)

theorem build_initFunctions_ne :
    (∃ e, Language.go.extract initFunctionsText "store/a.go" = .ok e ∧ e.declarations = initFunctions) ∧
      ¬ ((build initFunctions).declarations.toList.Pairwise fun d e => d.place < e.place) ∧
      ∃ declarations', (∀ d, d ∈ declarations' ↔ d ∈ initFunctions) ∧ build declarations' ≠ build initFunctions := by
  refine ⟨?_, ?_, ?_⟩
  · have hread : (Go.parse? initFunctionsText).map (fun t => (Go.declarations "store/a.go" t).declarations) =
        some initFunctions := by decide +kernel
    obtain ⟨t, ht, hdeclarations⟩ := Option.map_eq_some_iff.1 hread
    refine ⟨Go.declarations "store/a.go" t, ?_, hdeclarations⟩
    change Go.extract initFunctionsText "store/a.go" = _
    rw [Go.extract, ht]
  · exact fun h => not_separatePlaces_initFunctions (pairwise_place_lt_iff.1 h)
  · by_contra hsame
    push Not at hsame
    exact not_separatePlaces_initFunctions (separatePlaces_of_canonical hsame)

def saveAndLoad : List Declaration := [
  { kind := .function, name := "save", file := "store/a.go", line := 9 },
  { kind := .function, name := "load", file := "store/a.go", line := 3 }]

theorem build_order_iff_saveAndLoad :
    SeparatePlaces saveAndLoad ∧ (∀ d, d ∈ saveAndLoad.reverse ++ saveAndLoad ↔ d ∈ saveAndLoad) ∧
      build (saveAndLoad.reverse ++ saveAndLoad) = build saveAndLoad := by
  have hseparate : SeparatePlaces saveAndLoad := by
    intro d hd e he hplace
    have hlines := congrArg (fun p => (ofLex (ofLex p).2).1) hplace
    simp only [saveAndLoad, List.mem_cons, List.not_mem_nil, or_false] at hd he
    rcases hd with rfl | rfl <;> rcases he with rfl | rfl
    · rfl
    · exact absurd hlines (by decide)
    · exact absurd hlines (by decide)
    · rfl
  have hmembers : ∀ d, d ∈ saveAndLoad.reverse ++ saveAndLoad ↔ d ∈ saveAndLoad := by
    intro d
    rw [List.mem_append, List.mem_reverse, or_self]
  exact ⟨hseparate, hmembers, (build_order_iff saveAndLoad [] []).2.2.2.2.2.2 hseparate _ hmembers⟩

end Inventory

end Demarcation
