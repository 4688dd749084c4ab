/-!
Finite sets listed in ascending order. Main statements: membership after each operation (`mem_insert`, `mem_union`,
`mem_inter`, `mem_sdiff`, `mem_filter`), and `ext`: two sets with the same members are equal, so whatever is printed
from a set does not depend on how the set was built.
-/

namespace Demarcation

/-- A strict order in which any two different values can be compared. -/
class Ordered (α : Type) [LT α] : Prop where
  irrefl (a : α) : ¬ a < a
  trans {a b c : α} : a < b → b < c → a < c
  eq_of_not_lt {a b : α} : ¬ a < b → ¬ b < a → a = b

instance {α : Type} [LT α] [Std.Irrefl (α := α) (· < ·)] [Trans (α := α) (· < ·) (· < ·) (· < ·)]
    [Std.Trichotomous (α := α) (· < ·)] : Ordered α where
  irrefl := Std.Irrefl.irrefl
  trans := Trans.trans
  eq_of_not_lt := Std.Trichotomous.trichotomous _ _

instance : Ordered Nat where
  irrefl := Nat.lt_irrefl
  trans := Nat.lt_trans
  eq_of_not_lt h₁ h₂ := Nat.le_antisymm (Nat.le_of_not_lt h₂) (Nat.le_of_not_lt h₁)

instance : Ordered String where
  irrefl := String.lt_irrefl
  trans := String.lt_trans
  eq_of_not_lt h₁ h₂ := String.le_antisymm (String.not_lt.mp h₂) (String.not_lt.mp h₁)

/-- A finite set, held as the ascending list of its members. -/
structure SortedSet (α : Type) [LT α] where
  toList : List α
  ascending : toList.Pairwise (· < ·)

namespace SortedSet

variable {α : Type} [LT α]

instance : EmptyCollection (SortedSet α) := ⟨⟨[], .nil⟩⟩

instance : Inhabited (SortedSet α) := ⟨∅⟩

instance : Membership α (SortedSet α) := ⟨fun s a => a ∈ s.toList⟩

theorem mem_def {a : α} {s : SortedSet α} : a ∈ s ↔ a ∈ s.toList := Iff.rfl

@[simp] theorem not_mem_empty {a : α} : a ∉ (∅ : SortedSet α) := List.not_mem_nil

instance [DecidableEq α] (a : α) (s : SortedSet α) : Decidable (a ∈ s) :=
  inferInstanceAs (Decidable (a ∈ s.toList))

instance [DecidableEq α] : DecidableEq (SortedSet α) := fun s t =>
  decidable_of_iff (s.toList = t.toList) ⟨fun h => by cases s; cases t; cases h; rfl, fun h => h ▸ rfl⟩

def size (s : SortedSet α) : Nat := s.toList.length

def isEmpty (s : SortedSet α) : Bool := s.toList.isEmpty

def filter (p : α → Bool) (s : SortedSet α) : SortedSet α := ⟨s.toList.filter p, s.ascending.filter p⟩

theorem mem_filter {p : α → Bool} {s : SortedSet α} {a : α} : a ∈ s.filter p ↔ a ∈ s ∧ p a = true := by
  simp [mem_def, filter]

theorem nodup_toList [Ordered α] (s : SortedSet α) : s.toList.Nodup := by
  apply s.ascending.imp
  intro a b h hab
  rw [hab] at h
  exact Ordered.irrefl b h

section Insertion

variable [DecidableLT α]

def place (a : α) : List α → List α
  | [] => [a]
  | b :: bs => if a < b then a :: b :: bs else if b < a then b :: place a bs else b :: bs

variable [Ordered α]

theorem mem_place {a x : α} {l : List α} : x ∈ place a l ↔ x = a ∨ x ∈ l := by
  induction l with
  | nil => simp [place]
  | cons b bs ih =>
    by_cases h₁ : a < b
    · simp [place, h₁]
    · by_cases h₂ : b < a
      · simp only [place, if_neg h₁, if_pos h₂, List.mem_cons, ih, or_left_comm]
      · obtain rfl := Ordered.eq_of_not_lt h₁ h₂
        simp [place, h₁]

theorem pairwise_place (a : α) {l : List α} (h : l.Pairwise (· < ·)) : (place a l).Pairwise (· < ·) := by
  induction l with
  | nil => simp [place]
  | cons b bs ih =>
    obtain ⟨hb, hbs⟩ := List.pairwise_cons.1 h
    by_cases h₁ : a < b
    · simp only [place, if_pos h₁]
      refine List.pairwise_cons.2 ⟨fun x hx => ?_, h⟩
      rcases List.mem_cons.1 hx with rfl | hx
      · exact h₁
      · exact Ordered.trans h₁ (hb x hx)
    · by_cases h₂ : b < a
      · simp only [place, if_neg h₁, if_pos h₂]
        refine List.pairwise_cons.2 ⟨fun x hx => ?_, ih hbs⟩
        rcases mem_place.1 hx with rfl | hx
        · exact h₂
        · exact hb x hx
      · simp only [place, if_neg h₁, if_neg h₂]
        exact h

def insert (a : α) (s : SortedSet α) : SortedSet α := ⟨place a s.toList, pairwise_place a s.ascending⟩

theorem mem_insert {a x : α} {s : SortedSet α} : x ∈ s.insert a ↔ x = a ∨ x ∈ s := mem_place

def ofList (l : List α) : SortedSet α := l.foldl (fun s a => s.insert a) ∅

theorem mem_foldl_insert {l : List α} {s : SortedSet α} {x : α} :
    x ∈ l.foldl (fun s a => s.insert a) s ↔ x ∈ s ∨ x ∈ l := by
  induction l generalizing s with
  | nil => simp
  | cons a l ih => simp [ih, mem_insert, or_assoc, or_left_comm]

theorem mem_ofList {l : List α} {x : α} : x ∈ ofList l ↔ x ∈ l := by
  simp [ofList, mem_foldl_insert]

def union (s t : SortedSet α) : SortedSet α := t.toList.foldl (fun s a => s.insert a) s

instance : Union (SortedSet α) := ⟨union⟩

theorem mem_union {s t : SortedSet α} {x : α} : x ∈ s ∪ t ↔ x ∈ s ∨ x ∈ t := mem_foldl_insert

def unions (l : List (SortedSet α)) : SortedSet α := l.foldl (· ∪ ·) ∅

theorem mem_unions {l : List (SortedSet α)} {x : α} : x ∈ unions l ↔ ∃ s ∈ l, x ∈ s := by
  suffices h : ∀ t : SortedSet α, x ∈ l.foldl (· ∪ ·) t ↔ x ∈ t ∨ ∃ s ∈ l, x ∈ s by
    simpa [unions] using h ∅
  induction l with
  | nil => simp
  | cons s l ih => simp [ih, mem_union, or_assoc]

end Insertion

section Comparison

variable [DecidableEq α]

def inter (s t : SortedSet α) : SortedSet α := s.filter (· ∈ t)

instance : Inter (SortedSet α) := ⟨inter⟩

theorem mem_inter {s t : SortedSet α} {x : α} : x ∈ s ∩ t ↔ x ∈ s ∧ x ∈ t := by
  change x ∈ s.filter _ ↔ _
  simp [mem_filter]

def sdiff (s t : SortedSet α) : SortedSet α := s.filter (· ∉ t)

instance : SDiff (SortedSet α) := ⟨sdiff⟩

theorem mem_sdiff {s t : SortedSet α} {x : α} : x ∈ s \ t ↔ x ∈ s ∧ x ∉ t := by
  change x ∈ s.filter _ ↔ _
  simp [mem_filter]

instance : HasSubset (SortedSet α) := ⟨fun s t => ∀ a ∈ s.toList, a ∈ t⟩

instance (s t : SortedSet α) : Decidable (s ⊆ t) := inferInstanceAs (Decidable (∀ a ∈ s.toList, a ∈ t))

def meets (s t : SortedSet α) : Bool := s.toList.any (· ∈ t)

end Comparison

theorem ext [Ordered α] {s t : SortedSet α} (h : ∀ a, a ∈ s ↔ a ∈ t) : s = t := by
  obtain ⟨s, hs⟩ := s
  obtain ⟨t, ht⟩ := t
  suffices s = t by subst this; rfl
  change ∀ a, a ∈ s ↔ a ∈ t at h
  induction s generalizing t with
  | nil =>
    cases t with
    | nil => rfl
    | cons b t => exact absurd ((h b).2 (by simp)) (by simp)
  | cons a s ih =>
    cases t with
    | nil => exact absurd ((h a).1 (by simp)) (by simp)
    | cons b t =>
      obtain ⟨ha, hs'⟩ := List.pairwise_cons.1 hs
      obtain ⟨hb, ht'⟩ := List.pairwise_cons.1 ht
      have hab : a = b := by
        rcases List.mem_cons.1 ((h a).1 (by simp)) with e | hat
        · exact e
        · rcases List.mem_cons.1 ((h b).2 (by simp)) with e | hbs
          · exact e.symm
          · exact absurd (Ordered.trans (hb a hat) (ha b hbs)) (Ordered.irrefl b)
      subst hab
      congr 1
      refine ih hs' t ht' fun x => ⟨fun hx => ?_, fun hx => ?_⟩
      · rcases List.mem_cons.1 ((h x).1 (List.mem_cons_of_mem _ hx)) with rfl | hx'
        · exact absurd (ha x hx) (Ordered.irrefl x)
        · exact hx'
      · rcases List.mem_cons.1 ((h x).2 (List.mem_cons_of_mem _ hx)) with rfl | hx'
        · exact absurd (hb x hx) (Ordered.irrefl x)
        · exact hx'

end SortedSet

end Demarcation
