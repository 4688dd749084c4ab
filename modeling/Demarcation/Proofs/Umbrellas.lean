import Mathlib.Data.List.Perm.Basic
import Mathlib.Order.Lattice
import Mathlib.Order.Nat
import Demarcation.Proofs.Sorting
import Demarcation.Scoring

/-!
Which umbrellas are dropped. The scan goes from small candidates to large ones, and a candidate is compared with smaller
ones only, so each decision can be read off the final list (`dropUmbrellas_eq_filter`). By induction on the number of
files, no decision depends on the order in which the candidates arrive (`dropUmbrellas_perm`).
-/

namespace Demarcation

namespace Candidate

variable {R : Type} {kept kept' extra scored scored' : List (Scored R)} {c : Candidate R}

section Covering

theorem coveringOf_append (kept extra : List (Scored R)) (c : Candidate R) :
    coveringOf (kept ++ extra) c = coveringOf kept c ++ coveringOf extra c := by
  rw [coveringOf, List.map_append, List.filter_append]
  rfl

theorem coveringOf_eq_nil (h : ∀ s ∈ extra, c.files.size ≤ s.1.files.size) : coveringOf extra c = [] := by
  rw [coveringOf, List.filter_eq_nil_iff, List.forall_mem_map]
  intro s hs
  rw [decide_eq_false (Nat.not_lt.2 (h s hs)), Bool.false_and]
  exact Bool.false_ne_true

theorem isUmbrella_append (h : ∀ s ∈ extra, c.files.size ≤ s.1.files.size) :
    isUmbrella (kept ++ extra) c = isUmbrella kept c := by
  rw [isUmbrella, isUmbrella, coveringOf_append, coveringOf_eq_nil h, List.append_nil]

theorem isUmbrella_congr (h : (coveringOf kept c).Perm (coveringOf kept' c)) :
    isUmbrella kept c = isUmbrella kept' c := by
  have hfiles : SortedSet.unions ((coveringOf kept c).map (·.files)) =
      SortedSet.unions ((coveringOf kept' c).map (·.files)) := by
    apply SortedSet.ext
    intro f
    rw [SortedSet.mem_unions, SortedSet.mem_unions]
    simp only [(h.map (·.files)).mem_iff]
  simp only [isUmbrella, h.length_eq, hfiles]

theorem isUmbrella_of_declared (kept : List (Scored R)) (h : c.declared = true) : isUmbrella kept c = false := by
  rw [isUmbrella, h]
  rfl

end Covering

section Scan

def byFileCount (scored : List (Scored R)) : List (Scored R) :=
  scored.mergeSort fun s t => s.1.files.size ≤ t.1.files.size

theorem pairwise_byFileCount (scored : List (Scored R)) :
    (byFileCount scored).Pairwise fun s t => s.1.files.size ≤ t.1.files.size :=
  pairwise_mergeSort_of_key (fun s => s.1.files.size) scored

theorem foldl_keep_eq_filter {l : List (Scored R)} (hl : l.Pairwise fun s t => s.1.files.size ≤ t.1.files.size)
    {result : List (Scored R)}
    (h : l.foldl (fun kept s => if isUmbrella kept s.1 then kept else kept ++ [s]) kept = result) :
    result = kept ++ l.filter fun s => !isUmbrella result s.1 := by
  induction l generalizing kept with
  | nil => rw [← h, List.filter_nil, List.append_nil, List.foldl_nil]
  | cons s l ih =>
    obtain ⟨hs, hl⟩ := List.pairwise_cons.1 hl
    have hlater : ∀ t ∈ l.filter fun t => !isUmbrella result t.1, s.1.files.size ≤ t.1.files.size :=
      fun t ht => hs t (List.mem_of_mem_filter ht)
    rw [List.foldl_cons] at h
    -- What is kept after `s` is no smaller than `s`, so the decision about `s` stands.
    by_cases hu : isUmbrella kept s.1
    · rw [if_pos hu] at h
      have hresult := ih hl h
      have hdropped : isUmbrella result s.1 = true := by rwa [hresult, isUmbrella_append hlater]
      rw [List.filter_cons_of_neg (by simpa using hdropped)]
      exact hresult
    · rw [if_neg hu] at h
      have hresult := ih hl h
      have hkept : isUmbrella result s.1 = false := by
        rw [hresult, List.append_assoc, isUmbrella_append]
        · exact Bool.eq_false_iff.2 hu
        · exact List.forall_mem_cons.2 ⟨Nat.le_refl _, hlater⟩
      rw [List.filter_cons_of_pos (by simpa using hkept)]
      simpa only [List.append_assoc, List.singleton_append] using hresult

theorem dropUmbrellas_eq_filter (scored : List (Scored R)) :
    dropUmbrellas scored = (byFileCount scored).filter fun s => !isUmbrella (dropUmbrellas scored) s.1 := by
  have hfold : (byFileCount scored).foldl (fun kept s => if isUmbrella kept s.1 then kept else kept ++ [s]) [] =
      dropUmbrellas scored := rfl
  have hresult := foldl_keep_eq_filter (pairwise_byFileCount scored) hfold
  rwa [List.nil_append] at hresult

theorem mem_dropUmbrellas_iff {s : Scored R} :
    s ∈ dropUmbrellas scored ↔ s ∈ scored ∧ isUmbrella (dropUmbrellas scored) s.1 = false := by
  have hmem : s ∈ byFileCount scored ↔ s ∈ scored := (List.mergeSort_perm _ _).mem_iff
  conv_lhs => rw [dropUmbrellas_eq_filter]
  rw [List.mem_filter, hmem, Bool.not_eq_true']

end Scan

section Kept

variable {f : String}

theorem exists_kept_of_isUmbrella (h : isUmbrella kept c = true) (hf : f ∈ c.files) :
    ∃ s ∈ kept, f ∈ s.1.files := by
  simp only [isUmbrella, Bool.and_eq_true, decide_eq_true_eq] at h
  obtain ⟨d, hd, hfd⟩ := SortedSet.mem_unions.1 (h.2 f hf)
  obtain ⟨e, he, rfl⟩ := List.mem_map.1 hd
  obtain ⟨s, hs, rfl⟩ := List.mem_map.1 (List.mem_of_mem_filter he)
  exact ⟨s, hs, hfd⟩

theorem exists_mem_dropUmbrellas {s : Scored R} (hs : s ∈ scored) (hf : f ∈ s.1.files) :
    ∃ t ∈ dropUmbrellas scored, f ∈ t.1.files := by
  cases hu : isUmbrella (dropUmbrellas scored) s.1 with
  | true => exact exists_kept_of_isUmbrella hu hf
  | false => exact ⟨s, mem_dropUmbrellas_iff.2 ⟨hs, hu⟩, hf⟩

end Kept

section Order

theorem coveringOf_dropUmbrellas (scored : List (Scored R)) (c : Candidate R) :
    coveringOf (dropUmbrellas scored) c = ((byFileCount scored).filter fun s =>
      !isUmbrella (dropUmbrellas scored) s.1 && (decide (s.1.files.size < c.files.size) && s.1.files.meets c.files)).map
        (·.1) := by
  rw [coveringOf]
  conv_lhs => rw [dropUmbrellas_eq_filter]
  rw [List.filter_map, List.filter_filter]
  congr 1
  apply List.filter_congr
  intro s _
  exact Bool.and_comm _ _

theorem byFileCount_perm (h : scored.Perm scored') : (byFileCount scored).Perm (byFileCount scored') :=
  (List.mergeSort_perm _ _).trans (h.trans (List.mergeSort_perm _ _).symm)

theorem isUmbrella_dropUmbrellas_congr (h : scored.Perm scored') (c : Candidate R) :
    isUmbrella (dropUmbrellas scored) c = isUmbrella (dropUmbrellas scored') c := by
  -- A decision depends on those about candidates with fewer files only.
  induction hn : c.files.size using Nat.strongRecOn generalizing c with
  | _ n ih =>
    subst hn
    apply isUmbrella_congr
    rw [coveringOf_dropUmbrellas, coveringOf_dropUmbrellas]
    refine List.Perm.map _ ?_
    have hcongr : (byFileCount scored).filter (fun s => !isUmbrella (dropUmbrellas scored) s.1 &&
          (decide (s.1.files.size < c.files.size) && s.1.files.meets c.files)) =
        (byFileCount scored).filter fun s => !isUmbrella (dropUmbrellas scored') s.1 &&
          (decide (s.1.files.size < c.files.size) && s.1.files.meets c.files) := by
      apply List.filter_congr
      intro s _
      by_cases hlt : s.1.files.size < c.files.size
      · rw [ih s.1.files.size hlt s.1 rfl]
      · rw [decide_eq_false hlt, Bool.false_and, Bool.and_false, Bool.and_false]
    rw [hcongr]
    exact (byFileCount_perm h).filter _

theorem dropUmbrellas_perm (h : scored.Perm scored') : (dropUmbrellas scored).Perm (dropUmbrellas scored') := by
  rw [dropUmbrellas_eq_filter scored, dropUmbrellas_eq_filter scored']
  simp only [isUmbrella_dropUmbrellas_congr h]
  exact (byFileCount_perm h).filter _

end Order

end Candidate

end Demarcation
