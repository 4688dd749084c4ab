import Mathlib.Data.List.Basic
import Mathlib.Data.List.Perm.Basic
import Demarcation.Proofs.OverlapCounting
import Demarcation.Absorption

/-!
The plain way to group a list by common names. The first member scans all others once and absorbs those that have more
than half of all names in common with the group, which grows on the way; then the first of those that are left does the
same. No index, queue or mark is kept. The groups partition the list (`sweep_perm`), nothing is absorbed exactly if no
two members join (`sweep_eq_singletons_iff`), and the groups of one family of members do not depend on the members that
have no name in common with the family (`sweep_filter`).
-/

namespace Demarcation.Feature

def joins (group g : Feature) : Bool :=
  group.area.isSome && group.area == g.area && group.names.overlapsHalf g.names

def extend (group g : Feature) : Feature := { group with names := group.names ∪ g.names }

section Definitions

variable {α : Type} (feature : α → Feature)

def sift : Feature → List α → List α × List α
  | _, [] => ([], [])
  | group, a :: as =>
    if group.joins (feature a) then
      let rest := sift (group.extend (feature a)) as
      (a :: rest.1, rest.2)
    else
      let rest := sift group as
      (rest.1, a :: rest.2)

theorem sift_snd_sublist (group : Feature) (l : List α) : (sift feature group l).2.Sublist l := by
  induction l generalizing group with
  | nil => exact List.Sublist.refl _
  | cons a as ih =>
    by_cases h : group.joins (feature a)
    · simpa only [sift, h, ↓reduceIte] using (ih _).cons a
    · simpa only [sift, h, ↓reduceIte, Bool.false_eq_true] using (ih _).cons_cons a

def sweep : List α → List (α × List α)
  | [] => []
  | a :: as => (a, (sift feature (feature a) as).1) :: sweep (sift feature (feature a) as).2
termination_by l => l.length
decreasing_by exact Nat.lt_succ_of_le (sift_snd_sublist feature _ _).length_le

def sweepWith (join : α → List α → α) (l : List α) : List α × Bool :=
  ((sweep feature l).map fun g => join g.1 g.2, (sweep feature l).any fun g => !g.2.isEmpty)

end Definitions

section Scan

variable {α β : Type} (feature : α → Feature)

theorem joins_iff {f g : Feature} :
    f.joins g = true ↔ ∃ area, f.area = some area ∧ g.area = some area ∧ f.names.overlapsHalf g.names = true := by
  simp only [joins, Bool.and_eq_true, Option.isSome_iff_exists, beq_iff_eq]
  constructor
  · rintro ⟨⟨⟨area, hf⟩, hfg⟩, ho⟩
    exact ⟨area, hf, hfg ▸ hf, ho⟩
  · rintro ⟨area, hf, hg, ho⟩
    exact ⟨⟨⟨area, hf⟩, hf.trans hg.symm⟩, ho⟩

theorem joins_comm (f g : Feature) : f.joins g = g.joins f := by
  rw [Bool.eq_iff_iff, joins_iff, joins_iff]
  simp only [SortedSet.overlapsHalf_comm f.names g.names, and_left_comm]

theorem sift_cons_of_joins {group : Feature} {a : α} (as : List α) (h : group.joins (feature a) = true) :
    sift feature group (a :: as) =
      (a :: (sift feature (group.extend (feature a)) as).1, (sift feature (group.extend (feature a)) as).2) := by
  simp only [sift, h, ↓reduceIte]

theorem sift_cons_of_not_joins {group : Feature} {a : α} (as : List α) (h : group.joins (feature a) = false) :
    sift feature group (a :: as) = ((sift feature group as).1, a :: (sift feature group as).2) := by
  simp only [sift, h, Bool.false_eq_true, ↓reduceIte]

theorem sift_fst_sublist (group : Feature) (l : List α) : (sift feature group l).1.Sublist l := by
  induction l generalizing group with
  | nil => exact List.Sublist.refl _
  | cons a as ih =>
    cases h : group.joins (feature a) with
    | true =>
      rw [sift_cons_of_joins feature as h]
      exact (ih _).cons_cons a
    | false =>
      rw [sift_cons_of_not_joins feature as h]
      exact (ih _).cons a

theorem sift_perm (group : Feature) (l : List α) :
    ((sift feature group l).1 ++ (sift feature group l).2).Perm l := by
  induction l generalizing group with
  | nil => exact List.Perm.refl _
  | cons a as ih =>
    cases h : group.joins (feature a) with
    | true =>
      rw [sift_cons_of_joins feature as h]
      exact (ih _).cons a
    | false =>
      rw [sift_cons_of_not_joins feature as h]
      exact List.perm_middle.trans ((ih _).cons a)

theorem sift_map (f : β → α) (group : Feature) (l : List β) :
    sift feature group (l.map f) =
      ((sift (feature ∘ f) group l).1.map f, (sift (feature ∘ f) group l).2.map f) := by
  induction l generalizing group with
  | nil => rfl
  | cons b bs ih =>
    cases h : group.joins (feature (f b)) with
    | true =>
      rw [List.map_cons, sift_cons_of_joins feature _ h, sift_cons_of_joins (feature ∘ f) bs h, ih]
      rfl
    | false =>
      rw [List.map_cons, sift_cons_of_not_joins feature _ h, sift_cons_of_not_joins (feature ∘ f) bs h, ih]
      rfl

variable {feature}

theorem sift_congr {feature' : α → Feature} (group : Feature) {l : List α} (h : ∀ a ∈ l, feature a = feature' a) :
    sift feature group l = sift feature' group l := by
  induction l generalizing group with
  | nil => rfl
  | cons a as ih =>
    simp only [sift, h a List.mem_cons_self, ih _ fun b hb => h b (List.mem_cons_of_mem a hb)]

theorem sift_eq_of_forall_not_joins {group : Feature} {l : List α}
    (h : ∀ a ∈ l, group.joins (feature a) = false) : sift feature group l = ([], l) := by
  induction l with
  | nil => rfl
  | cons a as ih =>
    rw [sift_cons_of_not_joins feature as (h a List.mem_cons_self), ih fun b hb => h b (List.mem_cons_of_mem a hb)]

theorem forall_not_joins_of_sift_fst {group : Feature} {l : List α} (h : (sift feature group l).1 = []) :
    ∀ a ∈ l, group.joins (feature a) = false := by
  induction l with
  | nil => exact fun a ha => absurd ha List.not_mem_nil
  | cons a as ih =>
    cases hj : group.joins (feature a) with
    | true =>
      rw [sift_cons_of_joins feature as hj] at h
      exact absurd h (List.cons_ne_nil _ _)
    | false =>
      rw [sift_cons_of_not_joins feature as hj] at h
      exact List.forall_mem_cons.2 ⟨hj, ih h⟩

end Scan

section Groups

variable {α β : Type} {feature : α → Feature}

theorem sweep_nil : sweep feature [] = [] := by rw [sweep]

theorem sweep_cons (a : α) (as : List α) :
    sweep feature (a :: as) =
      (a, (sift feature (feature a) as).1) :: sweep feature (sift feature (feature a) as).2 := by
  rw [sweep]

variable (feature) in
theorem sweep_perm (l : List α) : ((sweep feature l).flatMap fun g => g.1 :: g.2).Perm l := by
  fun_induction sweep feature l with
  | case1 => exact List.Perm.refl _
  | case2 a as ih =>
    rw [List.flatMap_cons, List.cons_append]
    exact ((ih.append_left _).trans (sift_perm feature _ as)).cons a

theorem sweep_map (f : β → α) (l : List β) :
    sweep feature (l.map f) = (sweep (feature ∘ f) l).map (Prod.map f (List.map f)) := by
  fun_induction sweep (feature ∘ f) l with
  | case1 => rw [List.map_nil, sweep_nil, List.map_nil]
  | case2 b bs ih =>
    rw [List.map_cons, sweep_cons, sift_map]
    exact congrArg _ ih

theorem sweep_congr {feature' : α → Feature} {l : List α} (h : ∀ a ∈ l, feature a = feature' a) :
    sweep feature l = sweep feature' l := by
  fun_induction sweep feature' l with
  | case1 => rw [sweep_nil]
  | case2 a as ih =>
    have hs : sift feature (feature a) as = sift feature' (feature' a) as := by
      rw [h a List.mem_cons_self]
      exact sift_congr _ fun b hb => h b (List.mem_cons_of_mem a hb)
    rw [sweep_cons, hs, ih]
    intro b hb
    exact h b (List.mem_cons_of_mem a ((sift_snd_sublist feature' _ as).subset hb))

theorem mem_of_mem_sweep {l : List α} {g : α × List α} (hg : g ∈ sweep feature l) : ∀ a ∈ g.1 :: g.2, a ∈ l := by
  intro a ha
  exact (sweep_perm feature l).subset (List.mem_flatMap.2 ⟨g, hg, ha⟩)

theorem pairwise_sweep {r : α → α → Prop} {l : List α} (h : l.Pairwise r) :
    (∀ g ∈ sweep feature l, ∀ a ∈ g.2, r g.1 a) ∧
      (sweep feature l).Pairwise fun g g' => ∀ a ∈ g'.1 :: g'.2, r g.1 a := by
  fun_induction sweep feature l with
  | case1 => exact ⟨fun g hg => absurd hg List.not_mem_nil, List.Pairwise.nil⟩
  | case2 a as ih =>
    obtain ⟨ha, has⟩ := List.pairwise_cons.1 h
    obtain ⟨hseed, hlater⟩ := ih (has.sublist (sift_snd_sublist feature _ as))
    refine ⟨List.forall_mem_cons.2 ⟨?_, hseed⟩, List.pairwise_cons.2 ⟨?_, hlater⟩⟩
    · intro b hb
      exact ha b ((sift_fst_sublist feature _ as).subset hb)
    · intro g hg b hb
      exact ha b ((sift_snd_sublist feature _ as).subset (mem_of_mem_sweep hg b hb))

theorem sweep_eq_singletons {l : List α} (h : ∀ g ∈ sweep feature l, g.2 = []) :
    sweep feature l = l.map fun a => (a, []) := by
  fun_induction sweep feature l with
  | case1 => rfl
  | case2 a as ih =>
    obtain ⟨ha, hrest⟩ := List.forall_mem_cons.1 h
    have hs := sift_eq_of_forall_not_joins (forall_not_joins_of_sift_fst ha)
    rw [hs] at ih hrest ⊢
    rw [ih hrest, List.map_cons]

theorem sweep_eq_singletons_iff (l : List α) :
    (∀ g ∈ sweep feature l, g.2 = []) ↔ l.Pairwise fun a b => (feature a).joins (feature b) = false := by
  induction l with
  | nil => simp only [sweep_nil, List.not_mem_nil, false_implies, implies_true, List.Pairwise.nil]
  | cons a as ih =>
    rw [sweep_cons, List.forall_mem_cons, List.pairwise_cons]
    constructor
    · rintro ⟨ha, hrest⟩
      have hj := forall_not_joins_of_sift_fst ha
      rw [sift_eq_of_forall_not_joins hj] at hrest
      exact ⟨hj, ih.1 hrest⟩
    · rintro ⟨hj, hrest⟩
      rw [sift_eq_of_forall_not_joins hj]
      exact ⟨rfl, ih.2 hrest⟩

variable (feature) in
theorem length_sweep_le (l : List α) : (sweep feature l).length ≤ l.length := by
  fun_induction sweep feature l with
  | case1 => exact Nat.le_refl _
  | case2 a as ih => exact Nat.succ_le_succ (Nat.le_trans ih (sift_snd_sublist feature _ as).length_le)

theorem length_sweep_lt {l : List α} {g : α × List α} (hg : g ∈ sweep feature l) (ha : g.2 ≠ []) :
    (sweep feature l).length < l.length := by
  fun_induction sweep feature l with
  | case1 => exact absurd hg List.not_mem_nil
  | case2 a as ih =>
    have hcount := (sift_perm feature (feature a) as).length_eq
    rw [List.length_append] at hcount
    rw [List.length_cons, List.length_cons]
    rcases List.mem_cons.1 hg with rfl | hg
    · have hpos : 0 < (sift feature (feature a) as).1.length := List.length_pos_iff.2 ha
      have hle := length_sweep_le feature (sift feature (feature a) as).2
      omega
    · have hlt := ih hg
      omega

end Groups

section Families

variable {α κ : Type} [DecidableEq κ] {feature : α → Feature} {family : α → κ}

def Apart (f g : Feature) : Prop :=
  ∀ area, f.area = some area → g.area = some area → ∀ name ∈ f.names, name ∉ g.names

theorem Apart.not_joins {f g : Feature} (h : f.Apart g) : f.joins g = false := by
  rw [Bool.eq_false_iff, Ne, joins_iff]
  rintro ⟨area, hf, hg, ho⟩
  rw [SortedSet.not_overlapsHalf_of_disjoint (h area hf hg)] at ho
  exact Bool.false_ne_true ho

theorem Apart.extend {f g other : Feature} (hj : f.joins g = true) (hf : f.Apart other) (hg : g.Apart other) :
    (f.extend g).Apart other := by
  obtain ⟨area, hfa, hga, -⟩ := joins_iff.1 hj
  intro area' ha ho name hn
  have he : area' = area := Option.some.inj (ha.symm.trans hfa)
  rcases SortedSet.mem_union.1 hn with hn | hn
  · exact hf area' ha ho name hn
  · exact hg area' (he ▸ hga) ho name hn

theorem sift_filter {k : κ} {group : Feature} {l : List α}
    (hgroup : ∀ b ∈ l, family b ≠ k → group.Apart (feature b))
    (hl : ∀ a ∈ l, ∀ b ∈ l, family a ≠ family b → (feature a).Apart (feature b)) :
    (∀ a ∈ (sift feature group l).1, family a = k) ∧
      sift feature group (l.filter fun a => family a = k) =
        ((sift feature group l).1, (sift feature group l).2.filter fun a => family a = k) ∧
      ∀ k' ≠ k, (sift feature group l).2.filter (fun a => family a = k') = l.filter fun a => family a = k' := by
  induction l generalizing group with
  | nil => exact ⟨fun a ha => absurd ha List.not_mem_nil, rfl, fun _ _ => rfl⟩
  | cons a as ih =>
    have hl' : ∀ b ∈ as, ∀ c ∈ as, family b ≠ family c → (feature b).Apart (feature c) :=
      fun b hb c hc => hl b (List.mem_cons_of_mem a hb) c (List.mem_cons_of_mem a hc)
    have hgroup' : ∀ b ∈ as, family b ≠ k → group.Apart (feature b) :=
      fun b hb => hgroup b (List.mem_cons_of_mem a hb)
    cases hj : group.joins (feature a) with
    | true =>
      have ha : family a = k := by
        by_contra hne
        rw [(hgroup a List.mem_cons_self hne).not_joins] at hj
        exact Bool.false_ne_true hj
      have hextended : ∀ b ∈ as, family b ≠ k → (group.extend (feature a)).Apart (feature b) := by
        intro b hb hne
        apply (hgroup' b hb hne).extend hj
        exact hl a List.mem_cons_self b (List.mem_cons_of_mem a hb) (ha ▸ hne.symm)
      obtain ⟨habsorbed, hsame, hother⟩ := ih hextended hl'
      rw [sift_cons_of_joins feature as hj, List.filter_cons_of_pos (by simpa using ha),
        sift_cons_of_joins feature _ hj, hsame]
      refine ⟨List.forall_mem_cons.2 ⟨ha, habsorbed⟩, rfl, ?_⟩
      intro k' hk
      rw [List.filter_cons_of_neg (by simpa [ha] using hk.symm)]
      exact hother k' hk
    | false =>
      obtain ⟨habsorbed, hsame, hother⟩ := ih hgroup' hl'
      rw [sift_cons_of_not_joins feature as hj]
      refine ⟨habsorbed, ?_, ?_⟩
      · by_cases ha : family a = k
        · rw [List.filter_cons_of_pos (by simpa using ha), sift_cons_of_not_joins feature _ hj, hsame,
            List.filter_cons_of_pos (by simpa using ha)]
        · rw [List.filter_cons_of_neg (by simpa using ha), hsame, List.filter_cons_of_neg (by simpa using ha)]
      · intro k' hk
        simp only [List.filter_cons, hother k' hk]

variable (feature family) in
theorem sweep_filter {l : List α} (hl : ∀ a ∈ l, ∀ b ∈ l, family a ≠ family b → (feature a).Apart (feature b)) :
    (∀ g ∈ sweep feature l, ∀ a ∈ g.2, family a = family g.1) ∧
      ∀ k, sweep feature (l.filter fun a => family a = k) = (sweep feature l).filter fun g => family g.1 = k := by
  fun_induction sweep feature l with
  | case1 => exact ⟨fun g hg => absurd hg List.not_mem_nil, fun k => sweep_nil⟩
  | case2 a as ih =>
    have hsub := (sift_snd_sublist feature (feature a) as).subset
    obtain ⟨hfamily, hgroups⟩ := ih fun b hb c hc =>
      hl b (List.mem_cons_of_mem a (hsub hb)) c (List.mem_cons_of_mem a (hsub hc))
    obtain ⟨habsorbed, hsame, hother⟩ := sift_filter (k := family a)
      (fun b hb hne => hl a List.mem_cons_self b (List.mem_cons_of_mem a hb) hne.symm)
      (fun b hb c hc => hl b (List.mem_cons_of_mem a hb) c (List.mem_cons_of_mem a hc))
    refine ⟨List.forall_mem_cons.2 ⟨habsorbed, hfamily⟩, ?_⟩
    intro k
    by_cases hk : family a = k
    · subst hk
      rw [List.filter_cons_of_pos (by simp), List.filter_cons_of_pos (by simp), sweep_cons, hsame, hgroups]
    · rw [List.filter_cons_of_neg (by simpa using hk), List.filter_cons_of_neg (by simpa using hk),
        ← hother k (Ne.symm hk), hgroups]

end Families

section Joined

variable {α β : Type} {feature : α → Feature} {join : α → List α → α}

theorem sweepWith_cons (a : α) (as : List α) :
    sweepWith feature join (a :: as) =
      (join a (sift feature (feature a) as).1 :: (sweepWith feature join (sift feature (feature a) as).2).1,
        !(sift feature (feature a) as).1.isEmpty || (sweepWith feature join (sift feature (feature a) as).2).2) := by
  rw [sweepWith, sweep_cons]
  rfl

theorem sweepWith_changed_iff (l : List α) :
    (sweepWith feature join l).2 = true ↔ ∃ g ∈ sweep feature l, g.2 ≠ [] := by
  simp only [sweepWith, List.any_eq_true, Bool.not_eq_true', List.isEmpty_eq_false_iff]

theorem sweepWith_unchanged_iff (l : List α) :
    (sweepWith feature join l).2 = false ↔ l.Pairwise fun a b => (feature a).joins (feature b) = false := by
  rw [← sweep_eq_singletons_iff, Bool.eq_false_iff, Ne, sweepWith_changed_iff]
  simp only [not_exists, not_and, not_not]

theorem sweepWith_of_unchanged (hjoin : ∀ a, join a [] = a) {l : List α}
    (h : (sweepWith feature join l).2 = false) : sweepWith feature join l = (l, false) := by
  have hs := sweep_eq_singletons ((sweep_eq_singletons_iff l).2 ((sweepWith_unchanged_iff l).1 h))
  refine Prod.ext ?_ h
  simp only [sweepWith, hs, List.map_map, Function.comp_def, hjoin, List.map_id']

theorem length_sweepWith_lt {l : List α} (h : (sweepWith feature join l).2 = true) :
    (sweepWith feature join l).1.length < l.length := by
  obtain ⟨g, hg, ha⟩ := (sweepWith_changed_iff l).1 h
  rw [sweepWith, List.length_map]
  exact length_sweep_lt hg ha

variable (feature join) in
theorem length_sweepWith_le (l : List α) : (sweepWith feature join l).1.length ≤ l.length := by
  rw [sweepWith, List.length_map]
  exact length_sweep_le feature l

variable (feature) in
theorem sweepWith_ne_nil {l : List α} (h : l ≠ []) : (sweepWith feature join l).1 ≠ [] := by
  obtain ⟨a, as, rfl⟩ := List.exists_cons_of_ne_nil h
  rw [sweepWith, sweep_cons, List.map_cons]
  exact List.cons_ne_nil _ _

theorem sweepWith_changed_iff_length_lt (l : List α) :
    (sweepWith feature join l).2 = true ↔ (sweepWith feature join l).1.length < l.length := by
  refine ⟨length_sweepWith_lt, fun hlt => ?_⟩
  by_contra hunchanged
  have halone : ∀ g ∈ sweep feature l, g.2 = [] := by
    intro g hg
    by_contra hne
    exact hunchanged ((sweepWith_changed_iff l).2 ⟨g, hg, hne⟩)
  rw [sweepWith, sweep_eq_singletons halone, List.length_map, List.length_map] at hlt
  exact Nat.lt_irrefl _ hlt

theorem sweepWith_map {join' : β → List β → β} (f : β → α)
    (hjoin : ∀ b bs, f (join' b bs) = join (f b) (bs.map f)) (l : List β) :
    sweepWith feature join (l.map f) =
      ((sweepWith (feature ∘ f) join' l).1.map f, (sweepWith (feature ∘ f) join' l).2) := by
  simp only [sweepWith, sweep_map, List.map_map, List.any_map, Function.comp_def, Prod.map_fst, Prod.map_snd, hjoin,
    List.isEmpty_map]

end Joined

end Demarcation.Feature
