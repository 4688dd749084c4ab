import Demarcation.Proofs.Paths

namespace Demarcation.Text

variable {c : Char} {piece affix xs ys : List Char}

theorem join_append {before after : List (List Char)} (hbefore : before ≠ []) (hafter : after ≠ []) :
    join c (before ++ after) = join c before ++ c :: join c after := by
  induction before with
  | nil => exact absurd rfl hbefore
  | cons first before ih =>
    cases before with
    | nil => simp [join, List.intercalate_cons_of_ne_nil hafter]
    | cons second before =>
      have ih := ih (List.cons_ne_nil _ _)
      simp only [join, List.cons_append, List.intercalate_cons_cons, List.append_assoc] at ih ⊢
      rw [ih]

theorem splitAll_append_cons (h : c ∉ piece) : splitAll c (piece ++ c :: xs) = piece :: splitAll c xs := by
  rw [splitAll_append, splitAll_eq_singleton h, List.singleton_append]

theorem splitAll_eq_dropLast_append (c : Char) (xs : List Char) :
    splitAll c xs = (splitAll c xs).dropLast ++ [(splitAfterLast c xs).2] := by
  by_cases h : c ∈ xs
  · obtain ⟨head, tail, rfl, htail⟩ := exists_append_cons_of_mem h
    rw [snd_splitAfterLast_append htail, splitAll_append, splitAll_eq_singleton htail, List.dropLast_concat]
  · rw [snd_splitAfterLast_of_not_mem h, splitAll_eq_singleton h]
    rfl

theorem not_mem_snd_splitAfterLast (c : Char) (xs : List Char) : c ∉ (splitAfterLast c xs).2 := by
  have hlast : (splitAfterLast c xs).2 ∈ splitAll c xs := by
    rw [splitAll_eq_dropLast_append]
    exact List.mem_append_right _ List.mem_cons_self
  exact not_mem_of_mem_splitAll hlast

theorem eq_join_of_splitAll {before rest : List (List Char)} (h : splitAll c xs = before ++ rest) (hrest : rest ≠ []) :
    (before = [] ∧ xs = join c rest) ∨ xs = join c before ++ c :: join c rest := by
  have hxs := join_splitAll c xs
  rw [h] at hxs
  by_cases hbefore : before = []
  · subst hbefore
    exact Or.inl ⟨rfl, hxs.symm⟩
  · rw [join_append hbefore hrest] at hxs
    exact Or.inr hxs.symm

theorem join_cons_of_ne_nil {pieces : List (List Char)} (h : pieces ≠ []) :
    join c (piece :: pieces) = piece ++ c :: join c pieces := by
  rw [← List.singleton_append, join_append (List.cons_ne_nil _ _) h]
  simp [join]

theorem prefix_join_cons (c : Char) (piece : List Char) (pieces : List (List Char)) :
    piece <+: join c (piece :: pieces) := by
  by_cases h : pieces = []
  · subst h
    simp [join]
  · rw [join_cons_of_ne_nil h]
    exact List.prefix_append _ _

theorem prefix_or_infix_of_splitAll {before after : List (List Char)} (h : splitAll c xs = before ++ piece :: after)
    (hafter : after ≠ []) : (before = [] ∧ piece ++ [c] <+: xs) ∨ c :: piece ++ [c] <:+: xs := by
  rcases eq_join_of_splitAll h (List.cons_ne_nil _ _) with ⟨hbefore, rfl⟩ | rfl
  · rw [join_cons_of_ne_nil hafter]
    exact Or.inl ⟨hbefore, join c after, by simp⟩
  · rw [join_cons_of_ne_nil hafter]
    exact Or.inr ⟨join c before, join c after, by simp⟩

theorem mem_tail_dropLast_splitAll_iff (h : c ∉ piece) :
    piece ∈ (splitAll c xs).dropLast.tail ↔ c :: piece ++ [c] <:+: xs := by
  constructor
  · intro hmem
    obtain ⟨first, pieces, hpieces⟩ := List.exists_cons_of_ne_nil (List.ne_nil_of_mem (List.mem_of_mem_tail hmem))
    rw [hpieces, List.tail_cons] at hmem
    obtain ⟨before, after, rfl⟩ := List.append_of_mem hmem
    have hsplit : splitAll c xs = (first :: before) ++ piece :: (after ++ [(splitAfterLast c xs).2]) := by
      rw [splitAll_eq_dropLast_append, hpieces]
      simp
    exact (prefix_or_infix_of_splitAll hsplit (by simp)).resolve_left fun hfirst => List.cons_ne_nil _ _ hfirst.1
  · rintro ⟨before, rest, rfl⟩
    obtain ⟨first, pieces, hpieces⟩ := List.exists_cons_of_ne_nil (splitAll_ne_nil c before)
    have hsplit : splitAll c (before ++ (c :: piece ++ [c]) ++ rest) = first :: (pieces ++ piece :: splitAll c rest) := by
      rw [← splitAll_append_cons h, ← List.cons_append, ← hpieces, ← splitAll_append]
      simp
    rw [hsplit, List.dropLast_cons_of_ne_nil (by simp), List.tail_cons, List.dropLast_append_of_ne_nil (by simp),
      List.dropLast_cons_of_ne_nil (splitAll_ne_nil c rest)]
    exact List.mem_append_right _ List.mem_cons_self

theorem mem_dropLast_splitAll_iff (h : c ∉ piece) :
    piece ∈ (splitAll c xs).dropLast ↔ piece ++ [c] <+: xs ∨ c :: piece ++ [c] <:+: xs := by
  constructor
  · intro hmem
    obtain ⟨before, after, hpieces⟩ := List.append_of_mem hmem
    have hsplit : splitAll c xs = before ++ piece :: (after ++ [(splitAfterLast c xs).2]) := by
      rw [splitAll_eq_dropLast_append, hpieces]
      simp
    exact (prefix_or_infix_of_splitAll hsplit (by simp)).imp_left And.right
  · rintro (⟨rest, rfl⟩ | hinside)
    · rw [List.append_assoc, List.singleton_append, splitAll_append_cons h,
        List.dropLast_cons_of_ne_nil (splitAll_ne_nil c rest)]
      exact List.mem_cons_self
    · exact List.mem_of_mem_tail ((mem_tail_dropLast_splitAll_iff h).2 hinside)

theorem exists_splitAll_append (h : c ∉ xs) (ys : List Char) :
    ∃ first pieces, splitAll c (xs ++ ys) = (xs ++ first) :: pieces := by
  obtain ⟨first, pieces, hys⟩ := List.exists_cons_of_ne_nil (splitAll_ne_nil c ys)
  refine ⟨first, pieces, ?_⟩
  induction xs with
  | nil => exact hys
  | cons x xs ih =>
    rw [List.mem_cons, not_or] at h
    rw [List.cons_append, splitAll, if_neg (Ne.symm h.1), ih h.2]
    rfl

theorem exists_prefix_splitAll_iff (h : c ∉ affix) :
    (∃ piece ∈ splitAll c xs, affix <+: piece) ↔ affix <+: xs ∨ c :: affix <:+: xs := by
  constructor
  · rintro ⟨piece, hpiece, hbegins⟩
    obtain ⟨before, after, hsplit⟩ := List.append_of_mem hpiece
    have hjoin : affix <+: join c (piece :: after) := hbegins.trans (prefix_join_cons c piece after)
    rcases eq_join_of_splitAll hsplit (List.cons_ne_nil _ _) with ⟨-, rfl⟩ | rfl
    · exact Or.inl hjoin
    · exact Or.inr ((List.cons_prefix_cons.2 ⟨rfl, hjoin⟩).isInfix.trans (List.suffix_append _ _).isInfix)
  · rintro (⟨rest, rfl⟩ | ⟨before, rest, rfl⟩)
    · obtain ⟨first, pieces, hsplit⟩ := exists_splitAll_append h rest
      rw [hsplit]
      exact ⟨_, List.mem_cons_self, List.prefix_append _ _⟩
    · obtain ⟨first, pieces, hsplit⟩ := exists_splitAll_append h rest
      refine ⟨affix ++ first, ?_, List.prefix_append _ _⟩
      rw [List.append_assoc, List.cons_append, splitAll_append, hsplit]
      exact List.mem_append_right _ List.mem_cons_self

theorem suffix_append_cons_iff (h : c ∉ affix) : affix <:+ xs ++ c :: ys ↔ affix <:+ ys := by
  constructor
  · intro hends
    rcases List.suffix_or_suffix_of_suffix hends (List.suffix_append xs (c :: ys)) with hshort | hlong
    · refine (List.suffix_cons_iff.1 hshort).resolve_left ?_
      rintro rfl
      exact h List.mem_cons_self
    · exact absurd (hlong.subset List.mem_cons_self) h
  · intro hends
    exact hends.trans ((List.suffix_cons c ys).trans (List.suffix_append xs _))

theorem suffix_snd_splitAfterLast_iff (h : c ∉ affix) : affix <:+ (splitAfterLast c xs).2 ↔ affix <:+ xs := by
  rcases (snd_splitAfterLast_eq_iff (not_mem_snd_splitAfterLast c xs)).1 rfl with hxs | ⟨head, hxs⟩
  · rw [← hxs]
  · conv_rhs => rw [hxs, suffix_append_cons_iff h]

end Demarcation.Text
