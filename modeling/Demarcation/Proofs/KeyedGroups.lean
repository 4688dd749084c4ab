import Demarcation.Proofs.Grouping
import Demarcation.Proofs.InventoryMembers

namespace Demarcation

section Keys

variable {R : Type}

structure GroupsByKey (inv : Inventory) (key : Declaration → String) (minimum : Int)
    (found : List (Candidate R)) : Prop where
  mem_members_iff : ∀ c ∈ found, ∀ i, i ∈ c.members ↔ ∃ d, inv.declarations[i]? = some d ∧ key d = c.name
  exists_iff : ∀ name, (∃ c ∈ found, c.name = name) ↔
    (∃ d ∈ inv.declarations.toList, key d = name) ∧ minimum ≤ (inv.declarations.toList.countP (key · == name) : Int)
  nodup_names : (found.map (·.name)).Nodup

variable {inv : Inventory} {key : Declaration → String} {minimum : Int} {found : List (Candidate R)}

theorem groupsByKey_map (inv : Inventory) (key : Declaration → String) (minimum : Int)
    (candidateOf : String × List (Nat × Declaration) → Candidate R) (hname : ∀ g, (candidateOf g).name = g.1)
    (hmembers : ∀ g, (candidateOf g).members = SortedSet.ofList (g.2.map (·.1))) :
    GroupsByKey inv key minimum
      (((groupsBy (fun e => key e.2) inv.entries).filter fun g => minimum ≤ (g.2.length : Int)).map candidateOf) where
  mem_members_iff := by
    intro c hc i
    obtain ⟨g, hg, rfl⟩ := List.mem_map.1 hc
    obtain ⟨-, hentries⟩ := mem_groupsBy_iff.1 (List.mem_of_mem_filter hg)
    rw [hmembers, hname, SortedSet.mem_ofList, hentries, Inventory.mem_map_fst_filter_entries (p := (key · == g.1))]
    simp only [beq_iff_eq]
  exists_iff := by
    intro name
    have hlength (k : String) := inv.length_filter_entries (key · == k)
    constructor
    · rintro ⟨c, hc, rfl⟩
      obtain ⟨g, hg, rfl⟩ := List.mem_map.1 hc
      obtain ⟨hg, hsize⟩ := List.mem_filter.1 hg
      obtain ⟨⟨e, he, hkey⟩, hentries⟩ := mem_groupsBy_iff.1 hg
      rw [decide_eq_true_eq, hentries, hlength] at hsize
      rw [hname]
      exact ⟨⟨e.2, inv.map_snd_entries ▸ List.mem_map_of_mem he, hkey⟩, hsize⟩
    · rintro ⟨⟨d, hd, hkey⟩, hsize⟩
      rw [← inv.map_snd_entries] at hd
      obtain ⟨e, he, rfl⟩ := List.mem_map.1 hd
      have hg :=
        (mem_groupsBy_iff (g := (name, inv.entries.filter fun e => key e.2 == name))).2 ⟨⟨e, he, hkey⟩, rfl⟩
      refine ⟨_, List.mem_map_of_mem (List.mem_filter.2 ⟨hg, ?_⟩), hname _⟩
      rw [decide_eq_true_eq, hlength]
      exact hsize
  nodup_names := by
    have hkeys : ((groupsBy (fun e => key e.2) inv.entries).map (·.1)).Nodup := by
      rw [groupsBy_eq, List.map_map]
      exact (List.map_id' _).symm ▸ nodup_eraseDups _
    have hnames : (fun c : Candidate R => c.name) ∘ candidateOf = fun g => g.1 := funext hname
    rw [List.map_map, hnames]
    exact hkeys.sublist (List.filter_sublist.map _)

namespace GroupsByKey

variable {c c' : Candidate R} {d e : Declaration}

theorem mem_members_iff_of_getElem? (h : GroupsByKey inv key minimum found) (hc : c ∈ found) {i : Nat}
    (hi : inv.declarations[i]? = some d) : i ∈ c.members ↔ c.name = key d := by
  rw [h.mem_members_iff c hc, hi]
  simp only [Option.some.injEq, exists_eq_left', eq_comm]

theorem mem_declarations_iff (h : GroupsByKey inv key minimum found) (hc : c ∈ found) :
    d ∈ c.declarations inv ↔ d ∈ inv.declarations.toList ∧ key d = c.name := by
  rw [Candidate.declarations, Inventory.mem_pick_iff]
  constructor
  · rintro ⟨i, hi, hd⟩
    obtain ⟨e, he, hkey⟩ := (h.mem_members_iff c hc i).1 hi
    obtain rfl := Option.some.inj (hd.symm.trans he)
    exact ⟨Inventory.mem_declarations_of_getElem? hd, hkey⟩
  · rintro ⟨hd, hkey⟩
    obtain ⟨i, hi⟩ := Inventory.exists_getElem?_of_mem hd
    exact ⟨i, (h.mem_members_iff c hc i).2 ⟨d, hi, hkey⟩, hi⟩

theorem exists_iff_of_build {declarations : List Declaration} {accesses : List Access} {files : List String}
    (h : GroupsByKey (.build declarations accesses files) key minimum found) (name : String) :
    (∃ c ∈ found, c.name = name) ↔
      (∃ d ∈ declarations, key d = name) ∧ minimum ≤ (declarations.eraseDups.countP (key · == name) : Int) := by
  rw [h.exists_iff, (Inventory.perm_declarations_build declarations accesses files).countP_eq]
  simp only [Inventory.mem_declarations_build]

theorem eq_of_key_eq (h : GroupsByKey inv key minimum found) (hc : c ∈ found) (hc' : c' ∈ found)
    (hd : d ∈ c.declarations inv) (he : e ∈ c'.declarations inv) (hkey : key d = key e) : c = c' := by
  have hname : c.name = c'.name := by
    rw [← ((h.mem_declarations_iff hc).1 hd).2, ← ((h.mem_declarations_iff hc').1 he).2, hkey]
  exact List.inj_on_of_nodup_map h.nodup_names hc hc' hname

end GroupsByKey

end Keys

end Demarcation
