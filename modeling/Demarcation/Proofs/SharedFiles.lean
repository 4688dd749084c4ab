import Mathlib.Algebra.GroupWithZero.Nat
import Mathlib.Data.Finset.Card
import Mathlib.Data.List.Nodup
import Demarcation.Advice

namespace Demarcation

namespace Boundary

section Grouping

variable {groups : List (List String × List String)} {names files : List String} {file : String}

theorem groupFiles_perm (groups : List (List String × List String)) (names : List String) (file : String) :
    ((groupFiles groups names file).flatMap (·.2)).Perm (groups.flatMap (·.2) ++ [file]) := by
  induction groups with
  | nil => exact .refl _
  | cons g groups ih =>
    rw [groupFiles]
    split
    · simp only [List.flatMap_cons, List.append_assoc]
      exact List.perm_append_comm.append_left _
    · simp only [List.flatMap_cons, List.append_assoc]
      exact ih.append_left _

theorem map_fst_groupFiles (groups : List (List String × List String)) (names : List String) (file : String) :
    (groupFiles groups names file).map (·.1) =
      if names ∈ groups.map (·.1) then groups.map (·.1) else groups.map (·.1) ++ [names] := by
  induction groups with
  | nil => rfl
  | cons g groups ih =>
    obtain ⟨o, files⟩ := g
    by_cases h : o = names
    · simp [groupFiles, h]
    · have hne : ¬names = o := Ne.symm h
      by_cases hmem : names ∈ groups.map (·.1)
      · rw [if_pos hmem] at ih
        rw [groupFiles, if_neg (by simpa using h), List.map_cons, List.map_cons, ih, if_pos (List.mem_cons_of_mem _ hmem)]
      · rw [if_neg hmem] at ih
        rw [groupFiles, if_neg (by simpa using h), List.map_cons, List.map_cons, ih,
          if_neg (List.not_mem_cons_of_ne_of_not_mem hne hmem), List.cons_append]

theorem mem_groupFiles {g : List String × List String} (h : g ∈ groupFiles groups names file) :
    g ∈ groups ∨ g.1 = names ∧ ∃ files, g.2 = files ++ [file] ∧ (files = [] ∨ (names, files) ∈ groups) := by
  induction groups with
  | nil =>
    obtain rfl := List.mem_singleton.1 h
    exact .inr ⟨rfl, [], rfl, .inl rfl⟩
  | cons g' groups ih =>
    obtain ⟨o, files⟩ := g'
    rw [groupFiles] at h
    split at h
    · rename_i heq
      obtain rfl := eq_of_beq heq
      obtain rfl | h := List.mem_cons.1 h
      · exact .inr ⟨rfl, files, rfl, .inr List.mem_cons_self⟩
      · exact .inl (List.mem_cons_of_mem _ h)
    · obtain rfl | h := List.mem_cons.1 h
      · exact .inl List.mem_cons_self
      · obtain h | ⟨hname, files', hfiles, h⟩ := ih h
        · exact .inl (List.mem_cons_of_mem _ h)
        · exact .inr ⟨hname, files', hfiles, h.imp_right (List.mem_cons_of_mem _)⟩

structure Grouped (namesOf : String → List String) (files : List String)
    (groups : List (List String × List String)) : Prop where
  perm : (groups.flatMap (·.2)).Perm files
  nodup_names : (groups.map (·.1)).Nodup
  ne_nil : ∀ g ∈ groups, g.2 ≠ []
  names_eq : ∀ g ∈ groups, ∀ file ∈ g.2, namesOf file = g.1

variable {namesOf : String → List String}

theorem Grouped.add (h : Grouped namesOf files groups) (file : String) :
    Grouped namesOf (files ++ [file]) (groupFiles groups (namesOf file) file) where
  perm := (groupFiles_perm _ _ _).trans (h.perm.append_right _)
  nodup_names := by
    rw [map_fst_groupFiles]
    split
    · exact h.nodup_names
    · rename_i hnew
      rw [List.nodup_append]
      refine ⟨h.nodup_names, List.nodup_singleton _, ?_⟩
      rintro names hnames _ hnew' rfl
      exact hnew (List.mem_singleton.1 hnew' ▸ hnames)
  ne_nil := by
    intro g hg
    obtain hg | ⟨-, before, hfiles, -⟩ := mem_groupFiles hg
    · exact h.ne_nil g hg
    · rw [hfiles]
      exact List.append_ne_nil_of_right_ne_nil before (List.cons_ne_nil file [])
  names_eq := by
    intro g hg f hf
    obtain hg | ⟨hname, before, hfiles, hbefore⟩ := mem_groupFiles hg
    · exact h.names_eq g hg f hf
    · rw [hfiles, List.mem_append, List.mem_singleton] at hf
      obtain hf | rfl := hf
      · obtain rfl | hbefore := hbefore
        · exact absurd hf List.not_mem_nil
        · exact (h.names_eq _ hbefore f hf).trans hname.symm
      · exact hname.symm

theorem Grouped.foldl (h : Grouped namesOf files groups) (p : String → Bool) (l : List String) :
    Grouped namesOf (files ++ l.filter p)
      (l.foldl (fun groups file => if p file then groupFiles groups (namesOf file) file else groups) groups) := by
  induction l generalizing files groups with
  | nil => simpa using h
  | cons file l ih =>
    rw [List.foldl_cons, List.filter_cons]
    by_cases hp : p file
    · rw [if_pos hp, if_pos hp, ← List.singleton_append, ← List.append_assoc]
      exact ih (h.add file)
    · rw [if_neg hp, if_neg hp]
      exact ih h

end Grouping

section Owners

variable {R : Type} {boundaries : List (Boundary R)} {file : String}

def owners (boundaries : List (Boundary R)) (file : String) : List (Boundary R) :=
  boundaries.filter (file ∈ ·.files)

def shared (boundaries : List (Boundary R)) : Finset String :=
  {file ∈ (boundaries.flatMap (·.files)).toFinset | 1 < (owners boundaries file).length}

theorem mem_shared_iff : file ∈ shared boundaries ↔ 1 < (owners boundaries file).length := by
  rw [shared, Finset.mem_filter, List.mem_toFinset, and_iff_right_iff_imp]
  intro h
  obtain ⟨b, hb⟩ := List.exists_mem_of_length_pos (Nat.zero_lt_of_lt h)
  obtain ⟨hb, hfile⟩ := List.mem_filter.1 hb
  exact List.mem_flatMap.2 ⟨b, hb, of_decide_eq_true hfile⟩

theorem ownersOf_eq (h : ∀ b ∈ boundaries, b.files.Nodup) (file : String) :
    ownersOf boundaries file = (owners boundaries file).map (·.name) := by
  induction boundaries with
  | nil => rfl
  | cons b boundaries ih =>
    have hnodup := h b List.mem_cons_self
    have ih := ih fun b' hb' => h b' (List.mem_cons_of_mem b hb')
    rw [ownersOf] at ih
    rw [ownersOf, owners, List.flatMap_cons, List.filter_cons, ih, List.filter_beq]
    -- the name is repeated as often as the file is listed, which is at most once
    by_cases hmem : file ∈ b.files
    · rw [List.count_eq_one_of_mem hnodup hmem, if_pos (decide_eq_true hmem)]
      rfl
    · rw [List.count_eq_zero_of_not_mem hmem, if_neg (by simpa using hmem)]
      rfl

def sharedInOrder (boundaries : List (Boundary R)) : List String :=
  (SortedSet.ofList (boundaries.flatMap (·.files))).toList.filter fun file => 1 < (ownersOf boundaries file).length

theorem grouped_sharedFiles (boundaries : List (Boundary R)) :
    Grouped (ownersOf boundaries) (sharedInOrder boundaries) (sharedFiles boundaries) := by
  have hstart : Grouped (ownersOf boundaries) [] [] := ⟨.refl _, List.nodup_nil, nofun, nofun⟩
  have h := hstart.foldl (fun file => 1 < (ownersOf boundaries file).length)
    (SortedSet.ofList (boundaries.flatMap (·.files))).toList
  simp only [List.nil_append, decide_eq_true_eq] at h
  exact h

theorem nodup_sharedInOrder (boundaries : List (Boundary R)) : (sharedInOrder boundaries).Nodup :=
  (SortedSet.nodup_toList _).filter _

theorem toFinset_sharedInOrder (h : ∀ b ∈ boundaries, b.files.Nodup) :
    (sharedInOrder boundaries).toFinset = shared boundaries := by
  ext file
  rw [List.mem_toFinset, shared, Finset.mem_filter, List.mem_toFinset, sharedInOrder, List.mem_filter,
    ← SortedSet.mem_def, SortedSet.mem_ofList, decide_eq_true_eq, ownersOf_eq h, List.length_map]

end Owners

section Advice

variable {R : Type} [Scalar R] {boundaries : List (Boundary R)}

def moves (boundaries : List (Boundary R)) : List Recommendation :=
  (recommendations boundaries).filter (·.kind = .moveFiles)

theorem moves_eq (boundaries : List (Boundary R)) :
    moves boundaries = (sharedFiles boundaries).map fun g => adviseMove g.1 g.2 := by
  have hmerge : ∀ r ∈ (orderedPairs boundaries).flatMap (fun p => adviseMerge p.1 p.2), r.kind = .merge := by
    simp only [List.mem_flatMap, adviseMerge, List.mem_ite_nil_right, List.mem_singleton]
    rintro r ⟨p, -, -, rfl⟩
    rfl
  have hrename : ∀ r ∈ (orderedPairs boundaries).flatMap (fun p => adviseRename p.1 p.2), r.kind = .rename := by
    simp only [List.mem_flatMap, adviseRename, List.mem_ite_nil_right, List.mem_singleton]
    rintro r ⟨p, -, -, rfl⟩
    rfl
  have hsplit : ∀ r ∈ boundaries.flatMap adviseSplit, r.kind = .split := by
    simp only [List.mem_flatMap, adviseSplit, List.mem_ite_nil_right, List.mem_singleton]
    rintro r ⟨b, -, -, rfl⟩
    rfl
  have hnone {l : List Recommendation} {kind : Recommendation.Kind} (hne : kind ≠ .moveFiles)
      (h : ∀ r ∈ l, r.kind = kind) : l.filter (·.kind = .moveFiles) = [] := by
    rw [List.filter_eq_nil_iff]
    intro r hr
    rw [h r hr]
    simpa using hne
  have hmove : ∀ r ∈ (sharedFiles boundaries).map (fun g => adviseMove g.1 g.2), decide (r.kind = .moveFiles) = true := by
    simp only [List.mem_map]
    rintro r ⟨g, -, rfl⟩
    rfl
  rw [moves, recommendations, List.filter_append, List.filter_append, List.filter_append, hnone (by decide) hmerge,
    hnone (by decide) hrename, hnone (by decide) hsplit, List.filter_eq_self.2 hmove]
  rfl

def statedCount (r : Recommendation) : Nat := Nat.ofDigitChars 10 (r.reason.toList.takeWhile Char.isDigit) 0

theorem statedCount_adviseMove (names files : List String) : statedCount (adviseMove names files) = files.length := by
  obtain ⟨listed, hreason⟩ : ∃ listed, (adviseMove names files).reason =
      toString files.length ++ " file(s) belong to several boundaries: " ++ listed := ⟨_, rfl⟩
  have hcount : (toString files.length).toList = Nat.toDigits 10 files.length := Nat.toList_repr
  have hchars : (adviseMove names files).reason.toList = Nat.toDigits 10 files.length ++
      ' ' :: ("file(s) belong to several boundaries: ".toList ++ listed.toList) := by
    rw [hreason, String.toList_append, String.toList_append, hcount, List.append_assoc]
    rfl
  have hdigits : ∀ c ∈ Nat.toDigits 10 files.length, c.isDigit = true := by
    intro c hc
    exact Nat.isDigit_of_mem_toDigits (by decide) (by decide) hc
  rw [statedCount, hchars, List.takeWhile_append_of_pos hdigits, List.takeWhile_cons_of_neg (by decide), List.append_nil,
    Nat.ofDigitChars_toDigits (by decide) (by decide)]

/-- If no boundary lists a file twice, the advice to move files counts each file of several boundaries once and no other
file, names the owners of a file in their order, and never names the same owners twice. The numbers in the reasons add up
to the number of these files. -/
theorem moves_partition (h : ∀ b ∈ boundaries, b.files.Nodup) :
    ∃ groups : List (List String × List String),
      moves boundaries = groups.map (fun g => adviseMove g.1 g.2) ∧
      (∀ file, (groups.flatMap (·.2)).count file = if 1 < (owners boundaries file).length then 1 else 0) ∧
      (∀ g ∈ groups, g.2 ≠ [] ∧ ∀ file ∈ g.2, g.1 = (owners boundaries file).map (·.name)) ∧
      ((moves boundaries).map (·.boundaries)).Nodup ∧
      (moves boundaries).map statedCount = groups.map (·.2.length) ∧
      ((moves boundaries).map statedCount).sum = (shared boundaries).card := by
  obtain ⟨hperm, hnames, hne, howners⟩ := grouped_sharedFiles boundaries
  have hcounts : (moves boundaries).map statedCount = (sharedFiles boundaries).map (·.2.length) := by
    rw [moves_eq, List.map_map]
    exact List.map_congr_left fun g _ => statedCount_adviseMove g.1 g.2
  refine ⟨sharedFiles boundaries, moves_eq boundaries, ?_, ?_, ?_, hcounts, ?_⟩
  · intro file
    have hmem : file ∈ sharedInOrder boundaries ↔ 1 < (owners boundaries file).length := by
      rw [← List.mem_toFinset, toFinset_sharedInOrder h, mem_shared_iff]
    rw [hperm.count_eq, (nodup_sharedInOrder boundaries).count]
    simp only [hmem]
  · intro g hg
    refine ⟨hne g hg, ?_⟩
    intro file hfile
    rw [← howners g hg file hfile, ownersOf_eq h]
  · rw [moves_eq, List.map_map]
    exact hnames
  · rw [hcounts, ← List.length_flatMap, hperm.length_eq, ← toFinset_sharedInOrder h,
      List.toFinset_card_of_nodup (nodup_sharedInOrder boundaries)]

def userAndOrder : List (Boundary Rat) := [
  { name := "user", description := "", confidence := 1, files := ["a.go", "b.go", "c.go"] },
  { name := "order", description := "", confidence := 1, files := ["c.go", "a.go", "d.go"] },
  { name := "user", description := "", confidence := 1, files := ["d.go", "b.go", "c.go", "e.go"] }]

theorem moves_partition_userAndOrder :
    (∀ b ∈ userAndOrder, b.files.Nodup) ∧ ((moves userAndOrder).map statedCount).sum = 4 := by
  have hnodup : ∀ b ∈ userAndOrder, b.files.Nodup := by decide
  obtain ⟨-, -, -, -, -, -, hsum⟩ := moves_partition hnodup
  exact ⟨hnodup, hsum.trans (by decide +kernel)⟩

end Advice

end Boundary

end Demarcation
