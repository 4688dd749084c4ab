import Demarcation.Merge
import Demarcation.Proofs.InventoryMembers
import Demarcation.Proofs.Paths
import Demarcation.Proofs.Strength

namespace Demarcation

open Text

theorem Text.afterLast_eq_iff {call name : String} (h : '.' ∉ name.toList) :
    afterLast '.' call = name ↔ call = name ∨ ∃ qualifier, call = qualifier ++ ("." ++ name) := by
  rw [afterLast, ← String.toList_inj, String.toList_ofList, snd_splitAfterLast_eq_iff h, String.toList_inj]
  apply or_congr_right
  constructor
  · rintro ⟨head, hcall⟩
    refine ⟨String.ofList head, ?_⟩
    rw [← String.toList_inj, hcall, String.toList_append, String.toList_append, String.toList_ofList]
    rfl
  · rintro ⟨qualifier, rfl⟩
    refine ⟨qualifier.toList, ?_⟩
    rw [String.toList_append, String.toList_append]
    rfl

namespace Declaration

def Uses (d e : Declaration) : Prop := e.name ∈ d.references ∨ d.callsTo e = true

theorem name_mem_usedNames_iff {d e : Declaration} (h : '.' ∉ e.name.toList) :
    e.name ∈ Inventory.Declaration.usedNames d ↔ d.Uses e := by
  rw [Inventory.Declaration.usedNames, List.mem_append, Uses, callsTo_iff]
  apply or_congr_right
  rw [List.mem_map, Calls]
  simp only [afterLast_eq_iff h]

end Declaration

namespace Inventory

variable {inv : Inventory} {members others : SortedSet Nat} {declared : SortedSet String} {name : String}

def namesAt (inv : Inventory) (members : SortedSet Nat) : SortedSet String :=
  SortedSet.ofList ((inv.pick members.toList).map (·.name))

theorem mem_declaredNames_iff : name ∈ inv.declaredNames ↔ ∃ e ∈ inv.declarations.toList, e.name = name := by
  rw [declaredNames, SortedSet.mem_ofList, List.mem_map]

theorem mem_namesAt_iff :
    name ∈ inv.namesAt members ↔ ∃ i ∈ members, ∃ d, inv.declarations[i]? = some d ∧ d.name = name := by
  rw [namesAt, SortedSet.mem_ofList, List.mem_map]
  simp only [mem_pick_iff, SortedSet.mem_def]
  constructor
  · rintro ⟨d, ⟨i, hi, hd⟩, hname⟩
    exact ⟨i, hi, d, hd, hname⟩
  · rintro ⟨i, hi, d, hd, hname⟩
    exact ⟨d, ⟨i, hi, hd⟩, hname⟩

theorem mem_addExternal_iff {inside names : SortedSet String} {x : String} :
    x ∈ addExternal inside declared names name ↔ x ∈ names ∨ (x = name ∧ name ∉ inside ∧ name ∈ declared) := by
  unfold addExternal
  split
  · next h => rw [SortedSet.mem_insert, and_iff_left h, or_comm]
  · next h => simp only [h, and_false, or_false]

theorem mem_foldl_addExternal_iff {inside names : SortedSet String} {used : List String} :
    name ∈ used.foldl (addExternal inside declared) names ↔
      name ∈ names ∨ (name ∈ used ∧ name ∉ inside ∧ name ∈ declared) := by
  induction used generalizing names with
  | nil => simp
  | cons u used ih =>
    rw [List.foldl_cons, ih, mem_addExternal_iff, or_assoc, List.mem_cons, or_and_right]
    refine or_congr_right (or_congr_left (and_congr_right fun hname => ?_))
    rw [hname]

theorem foldl_addExternal_eq (inside names : SortedSet String) (group : List Declaration) :
    group.foldl (fun names d =>
        (d.calls.map (afterLast '.')).foldl (addExternal inside declared)
          (d.references.foldl (addExternal inside declared) names)) names =
      (group.flatMap Declaration.usedNames).foldl (addExternal inside declared) names := by
  induction group generalizing names with
  | nil => rfl
  | cons d group ih =>
    rw [List.foldl_cons, ih, List.flatMap_cons, List.foldl_append, Declaration.usedNames, List.foldl_append]

theorem externalNames_eq :
    inv.externalNames members declared = inv.usedNames members declared \ inv.namesAt members := by
  apply SortedSet.ext
  intro name
  have hloop : name ∈ inv.externalNames members declared ↔
      name ∈ (inv.pick members.toList).flatMap Declaration.usedNames ∧ name ∉ inv.namesAt members ∧ name ∈ declared := by
    rw [externalNames, foldl_addExternal_eq, mem_foldl_addExternal_iff]
    exact or_iff_right SortedSet.not_mem_empty
  rw [hloop, SortedSet.mem_sdiff, usedNames, SortedSet.mem_filter, SortedSet.mem_ofList, decide_eq_true_eq, and_assoc]
  exact and_congr_right fun _ => and_comm

theorem usedNames_union :
    inv.usedNames (members ∪ others) declared = inv.usedNames members declared ∪ inv.usedNames others declared := by
  apply SortedSet.ext
  intro name
  simp only [SortedSet.mem_union, mem_usedNames_iff, or_and_right, exists_or, and_or_left]

theorem namesAt_union : inv.namesAt (members ∪ others) = inv.namesAt members ∪ inv.namesAt others := by
  apply SortedSet.ext
  intro name
  simp only [SortedSet.mem_union, mem_namesAt_iff, or_and_right, exists_or]

theorem externalNames_union :
    inv.externalNames (members ∪ others) declared =
      (inv.externalNames members declared ∪ inv.externalNames others declared) \ inv.namesAt (members ∪ others) := by
  apply SortedSet.ext
  intro name
  simp only [externalNames_eq, usedNames_union, namesAt_union, SortedSet.mem_sdiff, SortedSet.mem_union]
  -- A name that the union does not declare is declared by neither part.
  tauto

theorem mem_usedNames_iff_uses (hplain : ∀ e ∈ inv.declarations.toList, '.' ∉ e.name.toList) :
    name ∈ inv.usedNames members inv.declaredNames ↔
      ∃ e ∈ inv.declarations.toList, e.name = name ∧ ∃ i ∈ members, ∃ d, inv.declarations[i]? = some d ∧ d.Uses e := by
  rw [mem_usedNames_iff, mem_declaredNames_iff]
  constructor
  · rintro ⟨⟨e, he, rfl⟩, i, hi, d, hd, huse⟩
    exact ⟨e, he, rfl, i, hi, d, hd, (Declaration.name_mem_usedNames_iff (hplain e he)).1 huse⟩
  · rintro ⟨e, he, rfl, i, hi, d, hd, huse⟩
    exact ⟨⟨e, he, rfl⟩, i, hi, d, hd, (Declaration.name_mem_usedNames_iff (hplain e he)).2 huse⟩

end Inventory

/-- If no declared name has a point, cutting calls at their last point finds the declarations that are called as a whole
or by an ending. The names used and not declared by a union are those of both parts without the ones it declares. -/
theorem Candidate.usedNames_resolved {R : Type} (inv : Inventory)
    (hplain : ∀ e ∈ inv.declarations.toList, '.' ∉ e.name.toList) (c : Candidate R) :
    (∀ name, name ∈ c.usedNames inv ↔
        ∃ e ∈ inv.declarations.toList, e.name = name ∧
          ∃ i ∈ c.members, ∃ d, inv.declarations[i]? = some d ∧ (e.name ∈ d.references ∨ d.callsTo e = true)) ∧
      inv.externalNames c.members inv.declaredNames = c.usedNames inv \ inv.namesAt c.members ∧
        ∀ members others : SortedSet Nat,
          inv.externalNames (members ∪ others) inv.declaredNames =
            (inv.externalNames members inv.declaredNames ∪ inv.externalNames others inv.declaredNames) \
              inv.namesAt (members ∪ others) := by
  refine ⟨?_, ?_, ?_⟩
  · intro name
    exact Inventory.mem_usedNames_iff_uses hplain
  · exact Inventory.externalNames_eq
  · intro members others
    exact Inventory.externalNames_union

def checkoutFunction : Declaration where
  kind := .function
  name := "Checkout"
  file := "shop/handler.go"
  line := 4
  references := ["Cart"]
  calls := ["h.store.Save", "json.Encode"]

def saveFunction : Declaration where
  kind := .function
  name := "Save"
  file := "shop/store.go"
  line := 5

def handlerAndStore : Inventory where
  declarations := #[checkoutFunction, saveFunction]

def handlerCandidate : Candidate Float where
  name := "handler"
  members := SortedSet.ofList [0]
  cohesion := Scalar.ofNat 1

theorem Candidate.usedNames_resolved_handler :
    (∀ e ∈ handlerAndStore.declarations.toList, '.' ∉ e.name.toList) ∧
      "Save" ∈ handlerCandidate.usedNames handlerAndStore ∧
        "Encode" ∉ handlerCandidate.usedNames handlerAndStore ∧
          "Save" ∉ handlerAndStore.externalNames (SortedSet.ofList [0] ∪ SortedSet.ofList [1])
            handlerAndStore.declaredNames := by
  have hplain : ∀ e ∈ handlerAndStore.declarations.toList, '.' ∉ e.name.toList := by decide
  obtain ⟨hused, -, hunion⟩ := Candidate.usedNames_resolved handlerAndStore hplain handlerCandidate
  refine ⟨hplain, (hused "Save").2 ?_, ?_, ?_⟩
  · refine ⟨saveFunction, by decide, rfl, 0, by decide, checkoutFunction, rfl, Or.inr ?_⟩
    exact Declaration.callsTo_iff.2 ⟨"h.store.Save", by decide, Or.inr ⟨"h.store", by decide⟩⟩
  · intro h
    obtain ⟨e, he, hname, -⟩ := (hused "Encode").1 h
    revert e
    decide
  · rw [hunion, SortedSet.mem_sdiff, not_and_not_right]
    intro _
    decide +kernel

end Demarcation
