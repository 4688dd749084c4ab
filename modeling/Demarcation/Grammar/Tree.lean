/-!
Syntax trees. A node knows its kind, the line it begins on, the text it covers and its children. The nodes of a tree
are visited with a list of pending trees; that order is the one in which the nodes begin in the text. A node is visited
if and only if the visit does not stop at any of the nodes above it (`mem_visit_iff`).
-/

namespace Demarcation.Grammar

/-- A node covers the first `size` characters of `source`, which runs to the end of the text. -/
inductive Tree (κ : Type) where
  | node (kind : κ) (line : Nat) (source : List Char) (size : Nat) (children : List (Tree κ))

namespace Tree

variable {κ : Type}

instance [Inhabited κ] : Inhabited (Tree κ) := ⟨.node default 0 [] 0 []⟩

def kind : Tree κ → κ
  | node k _ _ _ _ => k

def line : Tree κ → Nat
  | node _ l _ _ _ => l

def text : Tree κ → String
  | node _ _ source size _ => String.ofList (source.take size)

def children : Tree κ → List (Tree κ)
  | node _ _ _ _ cs => cs

mutual

def count : Tree κ → Nat
  | node _ _ _ _ cs => countAll cs + 1

def countAll : List (Tree κ) → Nat
  | [] => 0
  | t :: ts => count t + countAll ts

end

mutual

def preorder : Tree κ → List (Tree κ)
  | node k l s n cs => node k l s n cs :: preorders cs

def preorders : List (Tree κ) → List (Tree κ)
  | [] => []
  | t :: ts => preorder t ++ preorders ts

end

theorem countAll_append (ts us : List (Tree κ)) : countAll (ts ++ us) = countAll ts + countAll us := by
  induction ts with
  | nil => simp [countAll]
  | cons t ts ih => simp [countAll, ih]; omega

theorem preorders_append (ts us : List (Tree κ)) : preorders (ts ++ us) = preorders ts ++ preorders us := by
  induction ts with
  | nil => simp [preorders]
  | cons t ts ih => simp [preorders, ih]

theorem count_eq (t : Tree κ) : t.count = countAll t.children + 1 := by cases t; simp [count, children]

/-- The nodes of pending trees, in the order of a visit. Below the nodes where `stop` holds nothing is visited. -/
def visit (stop : Tree κ → Bool) : List (Tree κ) → List (Tree κ)
  | [] => []
  | t :: pending => t :: visit stop ((if stop t then [] else t.children) ++ pending)
termination_by pending => countAll pending
decreasing_by
  rw [countAll_append, countAll, count_eq]
  split
  · simp [countAll]
  · omega

inductive Path : Tree κ → List (Tree κ) → Tree κ → Prop where
  | here (t : Tree κ) : Path t [] t
  | down {t c u : Tree κ} {above : List (Tree κ)} :
      c ∈ t.children → Path c above u → Path t (t :: above) u

theorem mem_visit_iff {stop : Tree κ → Bool} {ts : List (Tree κ)} {u : Tree κ} :
    u ∈ visit stop ts ↔ ∃ t ∈ ts, ∃ above, Path t above u ∧ ∀ a ∈ above, stop a = false := by
  induction ts using visit.induct stop with
  | case1 => simp [visit]
  | case2 t pending ih =>
    rw [dite_eq_ite] at ih
    rw [visit, List.mem_cons, ih]
    constructor
    · rintro (rfl | ⟨s, hs, above, hpath, hopen⟩)
      · exact ⟨u, List.mem_cons_self, [], .here u, List.forall_mem_nil _⟩
      · rcases List.mem_append.1 hs with hs | hs
        · split at hs
          · exact absurd hs List.not_mem_nil
          · next hstop =>
            have hopen : ∀ a ∈ t :: above, stop a = false :=
              List.forall_mem_cons.2 ⟨Bool.eq_false_iff.2 hstop, hopen⟩
            exact ⟨t, List.mem_cons_self, t :: above, .down hs hpath, hopen⟩
        · exact ⟨s, List.mem_cons_of_mem _ hs, above, hpath, hopen⟩
    · rintro ⟨s, hs, above, hpath, hopen⟩
      rcases List.mem_cons.1 hs with rfl | hs
      · cases hpath with
        | here => exact .inl rfl
        | @down _ c _ above hc hpath =>
          obtain ⟨hstop, hopen⟩ := List.forall_mem_cons.1 hopen
          rw [hstop]
          exact .inr ⟨c, List.mem_append_left _ hc, above, hpath, hopen⟩
      · exact .inr ⟨s, List.mem_append_right _ hs, above, hpath, hopen⟩

def child? [BEq κ] (t : Tree κ) (k : κ) : Option (Tree κ) := t.children.find? (·.kind == k)

def childrenOf [BEq κ] (t : Tree κ) (k : κ) : List (Tree κ) := t.children.filter (·.kind == k)

def first? (t : Tree κ) : Option (Tree κ) := t.children.head?

def textOf [BEq κ] (t : Tree κ) (k : κ) : String := ((t.child? k).map text).getD ""

end Tree

end Demarcation.Grammar
