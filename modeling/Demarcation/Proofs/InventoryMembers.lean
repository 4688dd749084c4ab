import Mathlib.Data.List.Basic
import Demarcation.Clustering

namespace Demarcation

namespace Inventory

variable {inv : Inventory}

section Build

variable {declarations : List Declaration} {accesses : List Access} {files : List String}

theorem perm_declarations_build (declarations : List Declaration) (accesses : List Access) (files : List String) :
    (build declarations accesses files).declarations.toList.Perm declarations.eraseDups :=
  List.mergeSort_perm _ _

theorem mem_declarations_build {d : Declaration} :
    d ∈ (build declarations accesses files).declarations.toList ↔ d ∈ declarations := by
  rw [(perm_declarations_build declarations accesses files).mem_iff, List.mem_eraseDups]

theorem mem_accesses_build {a : Access} : a ∈ (build declarations accesses files).accesses ↔ a ∈ accesses :=
  SortedSet.mem_ofList

theorem file_mem_build {d : Declaration} (h : d ∈ (build declarations accesses files).declarations.toList) :
    d.file ∈ (build declarations accesses files).files := by
  rw [mem_declarations_build] at h
  exact SortedSet.mem_ofList.2 (List.mem_append_right _ (List.mem_map_of_mem h))

end Build

theorem mem_pick_iff {positions : List Nat} {d : Declaration} :
    d ∈ inv.pick positions ↔ ∃ i ∈ positions, inv.declarations[i]? = some d := List.mem_filterMap

theorem mem_declarations_of_getElem? {i : Nat} {d : Declaration} (h : inv.declarations[i]? = some d) :
    d ∈ inv.declarations.toList := by
  rw [← Array.getElem?_toList] at h
  exact List.mem_of_getElem? h

theorem exists_getElem?_of_mem {d : Declaration} (h : d ∈ inv.declarations.toList) :
    ∃ i : Nat, inv.declarations[i]? = some d := by
  obtain ⟨i, hi⟩ := List.getElem?_of_mem h
  rw [Array.getElem?_toList] at hi
  exact ⟨i, hi⟩

theorem mem_filesOf_iff {members : SortedSet Nat} {f : String} :
    f ∈ inv.filesOf members ↔ ∃ i ∈ members, ∃ d, inv.declarations[i]? = some d ∧ d.file = f := by
  rw [filesOf, SortedSet.mem_ofList, List.mem_map]
  simp only [mem_pick_iff, SortedSet.mem_def]
  constructor
  · rintro ⟨d, ⟨i, hi, hd⟩, hf⟩
    exact ⟨i, hi, d, hd, hf⟩
  · rintro ⟨i, hi, d, hd, hf⟩
    exact ⟨d, ⟨i, hi, hd⟩, hf⟩

theorem mem_usedNames_iff {members : SortedSet Nat} {declared : SortedSet String} {name : String} :
    name ∈ inv.usedNames members declared ↔
      name ∈ declared ∧ ∃ i ∈ members, ∃ d, inv.declarations[i]? = some d ∧ name ∈ Declaration.usedNames d := by
  rw [usedNames, SortedSet.mem_filter, SortedSet.mem_ofList, List.mem_flatMap, decide_eq_true_iff, and_comm]
  apply and_congr_right
  intro _
  simp only [mem_pick_iff, SortedSet.mem_def]
  constructor
  · rintro ⟨d, ⟨i, hi, hd⟩, hname⟩
    exact ⟨i, hi, d, hd, hname⟩
  · rintro ⟨i, hi, d, hd, hname⟩
    exact ⟨d, ⟨i, hi, hd⟩, hname⟩

theorem mem_entries_iff {i : Nat} {d : Declaration} : (i, d) ∈ inv.entries ↔ inv.declarations[i]? = some d := by
  rw [entries, List.mem_map, ← Array.getElem?_toList]
  constructor
  · rintro ⟨⟨e, j⟩, he, heq⟩
    obtain ⟨rfl, rfl⟩ := Prod.mk.inj heq
    exact List.mk_mem_zipIdx_iff_getElem?.1 he
  · intro h
    exact ⟨(d, i), List.mk_mem_zipIdx_iff_getElem?.2 h, rfl⟩

theorem map_snd_entries (inv : Inventory) : inv.entries.map (·.2) = inv.declarations.toList := by
  rw [entries, List.map_map]
  exact List.zipIdx_map_fst 0 _

theorem map_fst_entries (inv : Inventory) : inv.entries.map (·.1) = inv.positions := by
  rw [entries, List.map_map]
  change inv.declarations.toList.zipIdx.map Prod.snd = List.range inv.size
  rw [List.zipIdx_map_snd, List.range_eq_range', Array.length_toList, size]

theorem nodup_map_fst_entries (inv : Inventory) : (inv.entries.map (·.1)).Nodup := by
  rw [map_fst_entries]
  exact List.nodup_range

theorem mem_map_fst_filter_entries {p : Declaration → Bool} {i : Nat} :
    i ∈ (inv.entries.filter fun e => p e.2).map (·.1) ↔ ∃ d, inv.declarations[i]? = some d ∧ p d = true := by
  rw [List.mem_map]
  constructor
  · rintro ⟨⟨j, d⟩, hmem, rfl⟩
    obtain ⟨hd, hp⟩ := List.mem_filter.1 hmem
    exact ⟨d, mem_entries_iff.1 hd, hp⟩
  · rintro ⟨d, hd, hp⟩
    exact ⟨(i, d), List.mem_filter.2 ⟨mem_entries_iff.2 hd, hp⟩, rfl⟩

theorem length_filter_entries (inv : Inventory) (p : Declaration → Bool) :
    (inv.entries.filter fun e => p e.2).length = inv.declarations.toList.countP p := by
  rw [← List.countP_eq_length_filter, ← inv.map_snd_entries, List.countP_map]
  rfl

end Inventory

def IsAccessor (inv : Inventory) (a : Access) (i : Nat) : Prop :=
  ∃ d, inv.declarations[i]? = some d ∧ d.isFunction = true ∧ d.name = a.function ∧ d.file = a.file

theorem mem_accessors_iff {inv : Inventory} {a : Access} {i : Nat} : i ∈ accessors inv a ↔ IsAccessor inv a i := by
  rw [accessors,
    Inventory.mem_map_fst_filter_entries (p := fun d => d.isFunction && d.name == a.function && d.file == a.file)]
  simp only [IsAccessor, Bool.and_eq_true, beq_iff_eq, and_assoc]

end Demarcation
