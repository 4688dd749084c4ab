import Mathlib.Data.List.DropRight
import Mathlib.Data.String.Basic
import Demarcation.FileTree

namespace Demarcation

namespace Text

section Split

variable {c : Char} {xs ys : List Char}

theorem splitAll_append : splitAll c (xs ++ c :: ys) = splitAll c xs ++ splitAll c ys := by
  induction xs with
  | nil => simp [splitAll]
  | cons x xs ih =>
    by_cases h : x = c
    · simp [splitAll, h, ih]
    · obtain ⟨piece, pieces, hxs⟩ := List.exists_cons_of_ne_nil (splitAll_ne_nil c xs)
      rw [hxs] at ih
      simp [splitAll, h, ih, hxs]

theorem splitAll_eq_singleton (h : c ∉ xs) : splitAll c xs = [xs] := by
  induction xs with
  | nil => rfl
  | cons x xs ih =>
    have hx : x ≠ c := fun heq => h (heq ▸ List.mem_cons_self)
    rw [splitAll, if_neg hx, ih fun hc => h (List.mem_cons_of_mem x hc)]

theorem not_mem_of_mem_splitAll {piece : List Char} (h : piece ∈ splitAll c xs) : c ∉ piece := by
  induction xs generalizing piece with
  | nil =>
    rw [List.mem_singleton.1 h]
    exact List.not_mem_nil
  | cons x xs ih =>
    obtain ⟨first, pieces, hxs⟩ := List.exists_cons_of_ne_nil (splitAll_ne_nil c xs)
    rw [hxs] at ih
    by_cases hx : x = c
    · rw [splitAll, if_pos hx, hxs, List.mem_cons] at h
      obtain rfl | h := h
      · exact List.not_mem_nil
      · exact ih h
    · rw [splitAll, if_neg hx, hxs, List.mem_cons] at h
      obtain rfl | h := h
      · rw [List.mem_cons, not_or]
        exact ⟨Ne.symm hx, ih List.mem_cons_self⟩
      · exact ih (List.mem_cons_of_mem first h)

theorem rtakeWhile_append (h : c ∉ ys) : (xs ++ ys).rtakeWhile (· ≠ c) = xs.rtakeWhile (· ≠ c) ++ ys := by
  induction ys using List.reverseRecOn with
  | nil => simp
  | append_singleton ys y ih =>
    rw [List.mem_append, List.mem_singleton, not_or] at h
    rw [← List.append_assoc, List.rtakeWhile_concat, if_pos (decide_eq_true (Ne.symm h.2)), ih h.1, List.append_assoc]

theorem snd_splitAfterLast_of_not_mem (h : c ∉ ys) : (splitAfterLast c ys).2 = ys := by
  change ys.rtakeWhile (· ≠ c) = ys
  rw [← List.nil_append ys, rtakeWhile_append h, List.rtakeWhile_nil]

theorem snd_splitAfterLast_append (h : c ∉ ys) : (splitAfterLast c (xs ++ c :: ys)).2 = ys := by
  change (xs ++ c :: ys).rtakeWhile (· ≠ c) = ys
  rw [← List.singleton_append, ← List.append_assoc, rtakeWhile_append h, List.rtakeWhile_concat, if_neg (by simp),
    List.nil_append]

theorem exists_append_cons_of_mem (h : c ∈ xs) : ∃ head tail, xs = head ++ c :: tail ∧ c ∉ tail := by
  obtain ⟨tail, head, hreverse, hc⟩ := List.eq_append_cons_of_mem (List.mem_reverse.2 h)
  refine ⟨head.reverse, tail.reverse, ?_, mt List.mem_reverse.1 hc⟩
  rw [← List.reverse_reverse xs, hreverse]
  simp

theorem snd_splitAfterLast_eq_iff (h : c ∉ ys) :
    (splitAfterLast c xs).2 = ys ↔ xs = ys ∨ ∃ head, xs = head ++ c :: ys := by
  constructor
  · rintro rfl
    by_cases hc : c ∈ xs
    · obtain ⟨head, tail, rfl, htail⟩ := exists_append_cons_of_mem hc
      rw [snd_splitAfterLast_append htail]
      exact Or.inr ⟨head, rfl⟩
    · exact Or.inl (snd_splitAfterLast_of_not_mem hc).symm
  · rintro (rfl | ⟨head, rfl⟩)
    · exact snd_splitAfterLast_of_not_mem h
    · exact snd_splitAfterLast_append h

end Split

structure IsComponent (part : String) : Prop where
  noSlash : '/' ∉ part.toList
  ne_empty : part ≠ ""
  ne_dot : part ≠ "."

variable {path part : String} {parts : List String}

theorem isComponent_of_mem_components (h : part ∈ components path) : IsComponent part := by
  rw [components, List.mem_filter, List.mem_map, decide_eq_true_eq] at h
  obtain ⟨⟨piece, hpiece, rfl⟩, hempty, hdot⟩ := h
  refine ⟨?_, hempty, hdot⟩
  rw [String.toList_ofList]
  exact not_mem_of_mem_splitAll hpiece

theorem components_of_isComponent (h : IsComponent part) : components part = [part] := by
  rw [components, splitAll_eq_singleton h.noSlash, List.map_singleton, String.ofList_toList]
  exact List.filter_cons_of_pos (decide_eq_true ⟨h.ne_empty, h.ne_dot⟩)

theorem components_append_slash (a b : String) : components (a ++ "/" ++ b) = components a ++ components b := by
  have hchars : (a ++ "/" ++ b).toList = a.toList ++ '/' :: b.toList := by
    rw [String.toList_append, String.toList_append, List.append_assoc]
    rfl
  rw [components, hchars, splitAll_append, List.map_append, List.filter_append]
  rfl

theorem components_intercalate (h : ∀ part ∈ parts, IsComponent part) : components ("/".intercalate parts) = parts := by
  induction parts with
  | nil => rfl
  | cons part parts ih =>
    have hpart := components_of_isComponent (h part List.mem_cons_self)
    have ih := ih fun p hp => h p (List.mem_cons_of_mem part hp)
    cases parts with
    | nil => exact hpart
    | cons next rest =>
      have hjoin : "/".intercalate (part :: next :: rest) = part ++ "/" ++ "/".intercalate (next :: rest) := by
        rw [← String.toList_inj, String.toList_append, String.toList_append, String.toList_intercalate,
          String.toList_intercalate]
        exact List.intercalate_cons_cons
      rw [hjoin, components_append_slash, hpart, ih]
      rfl

theorem components_normalPath (path : String) : components (normalPath path) = components path := by
  have htext : components ("/".intercalate (components path)) = components path :=
    components_intercalate fun part hpart => isComponent_of_mem_components hpart
  unfold normalPath
  split
  · have habsolute := components_append_slash "" ("/".intercalate (components path))
    rw [String.empty_append] at habsolute
    rw [habsolute, htext]
    rfl
  · by_cases hempty : "/".intercalate (components path) = ""
    · rw [← htext, hempty]
      rfl
    · rw [if_neg (mt String.isEmpty_iff.1 hempty)]
      exact htext

end Text

open Text

theorem FileTree.resolve_normalPath (path : String) : resolve (normalPath path) = resolve path := by
  rw [resolve, resolve, components_normalPath]

end Demarcation
