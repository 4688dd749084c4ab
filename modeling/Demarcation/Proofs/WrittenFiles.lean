import Mathlib.Data.List.Basic
import Demarcation.FileTree

namespace Demarcation.FileTree

variable {t t' t'' : FileTree} {place other : List String} {node : Node} {path : String} {bytes : List UInt8}

section Put

theorem at?_nil : t.at? [] = some .directory := rfl

theorem at?_of_ne_nil (h : place ≠ []) : t.at? place = t.nodes.lookup place :=
  if_neg (mt List.isEmpty_iff.1 h)

theorem at?_put_self (h : place ≠ []) : (t.put place node).at? place = some node := by
  have hremoved : (t.nodes.filter fun n => n.1 ≠ place).lookup place = none := by
    rw [List.lookup_eq_none_iff]
    intro n hn
    have hne := of_decide_eq_true (List.mem_filter.1 hn).2
    exact bne_iff_ne.2 (Ne.symm hne)
  rw [at?_of_ne_nil h, put, List.lookup_append, hremoved, List.lookup_cons_self]
  rfl

theorem lookup_filter_of_ne (h : other ≠ place) (nodes : List (List String × Node)) :
    (nodes.filter fun n => n.1 ≠ place).lookup other = nodes.lookup other := by
  induction nodes with
  | nil => rfl
  | cons n nodes ih =>
    by_cases hn : n.1 = place
    · have hskip : (other == n.1) = false := beq_eq_false_iff_ne.2 (hn ▸ h)
      rw [List.filter_cons_of_neg (by simpa using hn), ih, List.lookup_cons, hskip]
    · rw [List.filter_cons_of_pos (by simpa using hn), List.lookup_cons, List.lookup_cons, ih]

theorem at?_put_of_ne (h : other ≠ place) : (t.put place node).at? other = t.at? other := by
  by_cases hroot : other = []
  · rw [hroot, at?_nil, at?_nil]
  · have hlast : [(place, node)].lookup other = none := by
      rw [List.lookup_cons, beq_eq_false_iff_ne.2 h]
      rfl
    rw [at?_of_ne_nil hroot, at?_of_ne_nil hroot, put, List.lookup_append, lookup_filter_of_ne h, hlast, Option.or_none]

end Put

section Directories

structure Extends (t t' : FileTree) (place : List String) : Prop where
  kept : ∀ other node, t.at? other = some node → t'.at? other = some node
  added : ∀ other node, t'.at? other = some node → t.at? other = some node ∨ node = .directory ∧ other <+: place

theorem Extends.refl (t : FileTree) (place : List String) : t.Extends t place :=
  ⟨fun _ _ h => h, fun _ _ h => Or.inl h⟩

theorem Extends.trans (h : t.Extends t' place) (h' : t'.Extends t'' place) : t.Extends t'' place := by
  refine ⟨fun other node hnode => h'.kept other node (h.kept other node hnode), fun other node hnode => ?_⟩
  obtain hold | hnew := h'.added other node hnode
  · exact h.added other node hold
  · exact Or.inr hnew

theorem Extends.file_iff (h : t.Extends t' place) :
    t'.at? other = some (.file bytes) ↔ t.at? other = some (.file bytes) := by
  refine ⟨fun hfile => ?_, h.kept other _⟩
  obtain hold | ⟨hnode, -⟩ := h.added other _ hfile
  · exact hold
  · cases hnode

theorem exists_makeLevel_eq {n : Nat} (h : ∀ bytes, t.at? (place.take n) ≠ some (.file bytes)) :
    ∃ t', makeLevel place t n = .ok t' ∧ t.Extends t' place := by
  cases hnode : t.at? (place.take n) with
  | none =>
    have hlevel : makeLevel place t n = .ok (t.put (place.take n) .directory) := by simp only [makeLevel, hnode]
    refine ⟨_, hlevel, fun other node hother => ?_, fun other node hother => ?_⟩
    · rwa [at?_put_of_ne]
      rintro rfl
      rw [hnode] at hother
      cases hother
    · by_cases hhere : other = place.take n
      · have hne : place.take n ≠ [] := by
          intro hnil
          rw [hnil, at?_nil] at hnode
          cases hnode
        rw [hhere, at?_put_self hne, Option.some_inj] at hother
        exact Or.inr ⟨hother.symm, hhere ▸ List.take_prefix n place⟩
      · rw [at?_put_of_ne hhere] at hother
        exact Or.inl hother
  | some node =>
    cases node with
    | file bytes => exact absurd hnode (h bytes)
    | directory =>
      have hlevel : makeLevel place t n = .ok t := by simp only [makeLevel, hnode]
      exact ⟨t, hlevel, Extends.refl t place⟩

theorem exists_makeDirectory_eq (h : ∀ n ≤ place.length, ∀ bytes, t.at? (place.take n) ≠ some (.file bytes)) :
    ∃ t', t.makeDirectory place = .ok t' ∧ t.Extends t' place := by
  -- The levels are made from the root on; no file is added, so none stands in the way of the levels below.
  have hlevels : ∀ k ≤ place.length + 1,
      ∃ t', (List.range k).foldlM (makeLevel place) t = .ok t' ∧ t.Extends t' place := by
    intro k hk
    induction k with
    | zero => exact ⟨t, rfl, Extends.refl t place⟩
    | succ k ih =>
      obtain ⟨t₁, ht₁, hext⟩ := ih (by omega)
      have hfree : ∀ bytes, t₁.at? (place.take k) ≠ some (.file bytes) :=
        fun bytes hfile => h k (by omega) bytes (hext.file_iff.1 hfile)
      obtain ⟨t₂, ht₂, hext'⟩ := exists_makeLevel_eq hfree
      refine ⟨t₂, ?_, hext.trans hext'⟩
      rw [List.range_succ, List.foldlM_append, ht₁, ok_bind, List.foldlM_cons, ht₂, ok_bind]
      rfl
  exact hlevels _ (Nat.le_refl _)

end Directories

/-- There is room for a file at a path: no file stands where a directory above it belongs, and no directory in its place. -/
structure HasRoomFor (t : FileTree) (path : String) : Prop where
  isRelative : path.startsWith "/" = false
  above : ∀ n < (resolve path).length, ∀ bytes, t.at? ((resolve path).take n) ≠ some (.file bytes)
  itself : t.at? (resolve path) ≠ some .directory

theorem HasRoomFor.ne_nil (h : t.HasRoomFor path) : resolve path ≠ [] := fun hnil => h.itself (hnil ▸ at?_nil)

theorem HasRoomFor.exists_makeDirectory_eq (h : t.HasRoomFor path) :
    ∃ t', t.makeDirectory (resolve path).dropLast = .ok t' ∧ t'.HasRoomFor path ∧
      ∀ other bytes, t'.at? other = some (.file bytes) ↔ t.at? other = some (.file bytes) := by
  have hlast : (resolve path).dropLast.length < (resolve path).length := by
    rw [List.length_dropLast]
    exact Nat.sub_lt (List.length_pos_iff.2 h.ne_nil) Nat.one_pos
  obtain ⟨t', ht', hext⟩ :
      ∃ t', t.makeDirectory (resolve path).dropLast = .ok t' ∧ t.Extends t' (resolve path).dropLast := by
    apply FileTree.exists_makeDirectory_eq
    intro n hn bytes
    rw [List.dropLast_eq_take, List.take_take, Nat.min_eq_left (by rwa [List.length_dropLast] at hn)]
    exact h.above n (Nat.lt_of_le_of_lt hn hlast) bytes
  refine ⟨t', ht', ⟨h.isRelative, fun n hn bytes hfile => h.above n hn bytes (hext.file_iff.1 hfile), ?_⟩,
    fun other bytes => hext.file_iff⟩
  intro hdirectory
  obtain hold | ⟨-, hprefix⟩ := hext.added _ _ hdirectory
  · exact h.itself hold
  · have hle := hprefix.length_le
    omega

theorem HasRoomFor.of_file_iff (h : t.HasRoomFor path)
    (hother : ∀ other, other ≠ resolve path → ∀ content,
      t'.at? other = some (.file content) ↔ t.at? other = some (.file content))
    (hitself : t'.at? (resolve path) ≠ some .directory) : t'.HasRoomFor path where
  isRelative := h.isRelative
  above n hn content hfile := by
    have hne : (resolve path).take n ≠ resolve path := by
      intro htake
      have hlength := congrArg List.length htake
      rw [List.length_take] at hlength
      omega
    exact h.above n hn content ((hother _ hne content).1 hfile)
  itself := hitself

theorem exists_write_eq (h : t.HasRoomFor path) (bytes : List UInt8) :
    ∃ t', t.write path bytes = .ok t' ∧ t'.find? path = some (.file bytes) ∧ t'.HasRoomFor path ∧
      ∀ other, other ≠ resolve path → ∀ content,
        t'.at? other = some (.file content) ↔ t.at? other = some (.file content) := by
  obtain ⟨t', ht', hroom, hfiles⟩ := h.exists_makeDirectory_eq
  have hitself : (t'.put (resolve path) (.file bytes)).at? (resolve path) = some (.file bytes) := at?_put_self h.ne_nil
  have hothers : ∀ other, other ≠ resolve path → ∀ content,
      (t'.put (resolve path) (.file bytes)).at? other = some (.file content) ↔ t.at? other = some (.file content) := by
    intro other hother content
    rw [at?_put_of_ne hother]
    exact hfiles other content
  refine ⟨t'.put (resolve path) (.file bytes), ?_, ?_, h.of_file_iff hothers ?_, hothers⟩
  · simp only [write, ht', ok_bind]
    cases hnode : t'.at? (resolve path) with
    | none => rfl
    | some node =>
      cases node with
      | file content => rfl
      | directory => exact absurd hnode hroom.itself
  · rw [find?, if_neg (by simp [h.isRelative]), hitself]
  · rw [hitself]
    nofun

end Demarcation.FileTree
