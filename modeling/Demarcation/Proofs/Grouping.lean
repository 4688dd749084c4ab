import Mathlib.Data.List.Induction
import Mathlib.Data.List.Nodup
import Demarcation.Clustering

namespace Demarcation

variable {α : Type}

theorem nodup_eraseDups [BEq α] [LawfulBEq α] : ∀ l : List α, l.eraseDups.Nodup
  | [] => List.nodup_nil
  | a :: l => by
    rw [List.eraseDups_cons, List.nodup_cons, List.mem_eraseDups]
    refine ⟨?_, nodup_eraseDups (l.filter fun b => !b == a)⟩
    intro ha
    simpa using (List.mem_filter.1 ha).2
termination_by l => l.length
decreasing_by exact Nat.lt_succ_of_le (List.length_filter_le _ _)

theorem eraseDups_of_nodup [BEq α] [LawfulBEq α] {l : List α} (h : l.Nodup) : l.eraseDups = l := by
  induction l with
  | nil => rfl
  | cons a l ih =>
    obtain ⟨ha, hl⟩ := List.nodup_cons.1 h
    have hfilter : (l.filter fun b => !b == a) = l := by
      rw [List.filter_eq_self]
      intro b hb
      simpa using ne_of_mem_of_not_mem hb ha
    rw [List.eraseDups_cons, hfilter, ih hl]

theorem nodup_distinctNames (names : List String) : (distinctNames names).Nodup := nodup_eraseDups _

theorem mem_distinctNames_iff {names : List String} {name : String} :
    name ∈ distinctNames names ↔ name ∈ names ∧ name ≠ "" := by
  simp [distinctNames]

theorem distinctNames_of_nodup {names : List String} (h : names.Nodup) (hne : "" ∉ names) : distinctNames names = names := by
  have hall : names.filter (· ≠ "") = names := by
    rw [List.filter_eq_self]
    intro name hname
    simpa using ne_of_mem_of_not_mem hname hne
  rw [distinctNames, hall, eraseDups_of_nodup h]

theorem perm_distinctNames_of_mem_iff {xs ys : List String} (h : ∀ x, x ≠ "" → (x ∈ xs ↔ x ∈ ys)) :
    (distinctNames xs).Perm (distinctNames ys) := by
  refine (List.perm_ext_iff_of_nodup (nodup_distinctNames xs) (nodup_distinctNames ys)).2 fun x => ?_
  rw [mem_distinctNames_iff, mem_distinctNames_iff]
  exact and_congr_left (h x)

theorem perm_distinctNames {xs ys : List String} (h : xs.Perm ys) : (distinctNames xs).Perm (distinctNames ys) :=
  perm_distinctNames_of_mem_iff fun _ _ => h.mem_iff

variable {key : α → String}

theorem add_map {keys : List String} (hkeys : keys.Nodup) (group : String → List α) (a : α) :
    groupsBy.add key (keys.map fun k => (k, group k)) a =
      if key a ∈ keys then keys.map fun k => (k, if k = key a then group k ++ [a] else group k)
      else keys.map (fun k => (k, group k)) ++ [(key a, [a])] := by
  induction keys with
  | nil => rfl
  | cons k keys ih =>
    obtain ⟨hk, hkeys⟩ := List.nodup_cons.1 hkeys
    rw [List.map_cons, groupsBy.add]
    by_cases hka : k = key a
    · subst hka
      have hothers : keys.map (fun k => (k, if k = key a then group k ++ [a] else group k)) =
          keys.map fun k => (k, group k) := by
        apply List.map_congr_left
        intro j hj
        rw [if_neg (ne_of_mem_of_not_mem hj hk)]
      rw [if_pos (beq_self_eq_true _), if_pos List.mem_cons_self, List.map_cons, if_pos rfl, hothers]
    · rw [if_neg (by simpa using hka), ih hkeys]
      by_cases hmem : key a ∈ keys
      · rw [if_pos hmem, if_pos (List.mem_cons_of_mem _ hmem), List.map_cons, if_neg hka]
      · rw [if_neg hmem, if_neg (List.not_mem_cons_of_ne_of_not_mem (Ne.symm hka) hmem)]
        rfl

theorem groupsBy_append_singleton (key : α → String) (items : List α) (a : α) :
    groupsBy key (items ++ [a]) = groupsBy.add key (groupsBy key items) a := by
  rw [groupsBy, List.foldl_append]
  rfl

theorem groupsBy_eq (key : α → String) (items : List α) :
    groupsBy key items = (items.map key).eraseDups.map fun k => (k, items.filter (key · == k)) := by
  induction items using List.reverseRecOn with
  | nil => rfl
  | append_singleton items a ih =>
    rw [groupsBy_append_singleton, ih, add_map (nodup_eraseDups _)]
    simp only [List.mem_eraseDups, List.map_append, List.map_singleton, List.eraseDups_append, List.filter_append]
    by_cases hnew : key a ∈ items.map key
    · have hold : [key a].removeAll (items.map key) = [] := by simpa [List.removeAll] using hnew
      rw [if_pos hnew, hold, List.eraseDups_nil, List.map_nil, List.append_nil]
      apply List.map_congr_left
      intro k _
      by_cases hk : k = key a
      · simp [hk]
      · simp [hk, Ne.symm hk]
    · have hfresh : [key a].removeAll (items.map key) = [key a] := by simpa [List.removeAll] using hnew
      have hnone : items.filter (key · == key a) = [] := by
        rw [List.filter_eq_nil_iff]
        intro b hb hba
        exact hnew (List.mem_map.2 ⟨b, hb, eq_of_beq hba⟩)
      rw [if_neg hnew, hfresh]
      refine congrArg₂ (· ++ ·) ?_ ?_
      · apply List.map_congr_left
        intro k hk
        have hne : ¬key a = k := by
          rintro rfl
          exact hnew (List.mem_eraseDups.1 hk)
        simp [hne]
      · have hone : [key a].eraseDups = [key a] := rfl
        simp [hone, hnone]

theorem mem_groupsBy_iff {items : List α} {g : String × List α} :
    g ∈ groupsBy key items ↔ (∃ a ∈ items, key a = g.1) ∧ g.2 = items.filter (key · == g.1) := by
  rw [groupsBy_eq, List.mem_map]
  simp only [List.mem_eraseDups, List.mem_map]
  constructor
  · rintro ⟨k, hk, rfl⟩
    exact ⟨hk, rfl⟩
  · rintro ⟨hk, hg⟩
    exact ⟨g.1, hk, Prod.ext rfl hg.symm⟩

end Demarcation
