import Mathlib.Data.List.Infix
import Demarcation.Grammar.Reading

/-!
Where the nodes that readers give begin. A reader takes tokens from the front only (`Forward`). The node that it gives
begins where the reader begins (`Opens`), or where a node that was read before begins (`Continues`). So nodes that are
read one after the other begin at tokens that follow each other (`sublist_many`).
-/

namespace Demarcation.Grammar

def Tree.origin {ν : Type} : Tree ν → Nat × List Char
  | .node _ line source _ _ => (line, source)

def Token.origin {κ : Type} (t : Token κ) : Nat × List Char := (t.line, t.source)

namespace Reader

variable {κ σ ν α β : Type} {p q : Reader κ σ α} {f : α → Reader κ σ β} {c d : Cursor κ σ}

theorem bind_eq_some_iff {b : β} : (p >>= f) c = some (b, d) ↔ ∃ a e, p c = some (a, e) ∧ f a e = some (b, d) := by
  change (p c).bind (fun r => f r.1 r.2) = some (b, d) ↔ _
  rw [Option.bind_eq_some_iff, Prod.exists]

theorem pure_eq_some_iff {a b : α} : (pure a : Reader κ σ α) c = some (b, d) ↔ a = b ∧ c = d := by
  change some (a, c) = some (b, d) ↔ _
  rw [Option.some.injEq, Prod.mk.injEq]

theorem optional_eq_some_iff {r : Option α} :
    optional p c = some (r, d) ↔ (∃ a, r = some a ∧ p c = some (a, d)) ∨ r = none ∧ c = d ∧ p c = none := by
  have hor : optional p c = ((p c).bind fun s => some (some s.1, s.2)).orElse fun _ => some (none, c) := rfl
  rw [hor, Option.orElse_eq_or]
  cases hp : p c with
  | none => simp [eq_comm]
  | some s => simp [Prod.ext_iff, eq_comm]

theorem or_of_firstOf_cons {ps : List (Reader κ σ α)} {r : α × Cursor κ σ} (h : firstOf (p :: ps) c = some r) :
    p c = some r ∨ firstOf ps c = some r := by
  rw [firstOf] at h
  dsimp only at h
  cases hp : p c with
  | some s =>
    rw [hp] at h
    exact .inl h
  | none =>
    rw [hp] at h
    exact .inr h

/-! ### What is left to read -/

def Forward (p : Reader κ σ α) : Prop := ∀ c a d, p c = some (a, d) → d.tokens <:+ c.tokens

theorem Forward.pure (a : α) : Forward (pure a : Reader κ σ α) := by
  intro c b d h
  obtain ⟨-, rfl⟩ := pure_eq_some_iff.1 h
  exact List.suffix_rfl

theorem Forward.failure : Forward (failure : Reader κ σ α) := fun _ _ _ h => nomatch h

theorem Forward.bind (hp : Forward p) (hf : ∀ a, Forward (f a)) : Forward (p >>= f) := by
  intro c b d h
  obtain ⟨a, e, ha, hb⟩ := bind_eq_some_iff.1 h
  exact (hf a e b d hb).trans (hp c a e ha)

theorem Forward.map (hp : Forward p) (g : α → β) : Forward (g <$> p) := .bind hp fun a => .pure (g a)

theorem Forward.ite {P : Prop} [Decidable P] (hp : Forward p) (hq : Forward q) : Forward (if P then p else q) := by
  split
  · exact hp
  · exact hq

theorem Forward.optional (hp : Forward p) : Forward (optional p) := by
  intro c r d h
  obtain ⟨a, -, ha⟩ | ⟨-, rfl, -⟩ := optional_eq_some_iff.1 h
  · exact hp c a d ha
  · exact List.suffix_rfl

theorem Forward.firstOf_nil : Forward (firstOf [] : Reader κ σ α) := .failure

theorem Forward.firstOf_cons {ps : List (Reader κ σ α)} (hp : Forward p) (hps : Forward (firstOf ps)) :
    Forward (firstOf (p :: ps)) := by
  intro c a d h
  rcases or_of_firstOf_cons h with h | h
  · exact hp c a d h
  · exact hps c a d h

def Looks (p : Reader κ σ α) : Prop := ∀ c a d, p c = some (a, d) → c = d

theorem Looks.forward (hp : Looks p) : Forward p := by
  intro c a d h
  rw [hp c a d h]

theorem Looks.get : Looks (get : Reader κ σ (Cursor κ σ)) := by
  intro c a d h
  exact (Prod.mk.inj (Option.some.inj h)).2

theorem Looks.pure (a : α) : Looks (pure a : Reader κ σ α) := fun _ _ _ h => (pure_eq_some_iff.1 h).2

theorem Looks.failure : Looks (failure : Reader κ σ α) := fun _ _ _ h => nomatch h

theorem Looks.bind (hp : Looks p) (hf : ∀ a, Looks (f a)) : Looks (p >>= f) := by
  intro c b d h
  obtain ⟨a, e, ha, hb⟩ := bind_eq_some_iff.1 h
  exact (hp c a e ha).trans (hf a e b d hb)

theorem Looks.ite {P : Prop} [Decidable P] (hp : Looks p) (hq : Looks q) : Looks (if P then p else q) := by
  split
  · exact hp
  · exact hq

theorem Looks.peek? : Looks (peek? : Reader κ σ (Option (Token κ))) := .bind .get fun _ => .pure _

theorem Looks.mode : Looks (mode : Reader κ σ σ) := .bind .get fun _ => .pure _

theorem Looks.isNext (fits : Token κ → Bool) : Looks (isNext fits : Reader κ σ Bool) := .bind .get fun _ => .pure _

theorem Looks.start : Looks (start : Reader κ σ Nat) := .bind .get fun _ => .pure _

theorem Forward.token (fits : Token κ → Bool) : Forward (token fits : Reader κ σ (Token κ)) := by
  intro c t d h
  rw [Reader.token] at h
  split at h
  · cases h
  · next u ts htokens =>
    split at h
    · obtain ⟨-, rfl⟩ := Prod.mk.inj (Option.some.inj h)
      exact htokens ▸ List.suffix_cons u ts
    · cases h

theorem Forward.within {mode : σ} (hp : Forward p) : Forward (within mode p) := by
  intro c a d h
  rw [Reader.within] at h
  split at h
  · next b e he =>
    obtain ⟨-, rfl⟩ := Prod.mk.inj (Option.some.inj h)
    have hsuffix := hp _ b e he
    exact hsuffix
  · cases h

theorem suffix_many_go (hp : Forward p) (fuel : Nat) (c : Cursor κ σ) : (many.go p fuel c).2.tokens <:+ c.tokens := by
  induction fuel generalizing c with
  | zero => exact List.suffix_rfl
  | succ fuel ih =>
    rw [many.go]
    split
    · next a d ha =>
      split
      · exact (ih d).trans (hp c a d ha)
      · exact List.suffix_rfl
    · exact List.suffix_rfl

theorem Forward.many (hp : Forward p) : Forward (many p) := by
  intro c as d h
  have hgo := suffix_many_go hp c.tokens.length c
  rw [Option.some.inj h] at hgo
  exact hgo

theorem Forward.separated {separator : Reader κ σ β} (hp : Forward p) (hs : Forward separator) :
    Forward (separated p separator) := .bind hp fun _ => .bind (.many (.bind hs fun _ => hp)) fun _ => .pure _

theorem Forward.listed {separator : Reader κ σ β} (hp : Forward p) (hs : Forward separator) :
    Forward (listed p separator) := .bind (.separated hp hs) fun _ => .bind (.optional hs) fun _ => .pure _

/-! ### Where a node begins -/

def origin (tokens : List (Token κ)) : Nat × List Char := (tokens.head?.map Token.origin).getD (0, [])

structure Opens (p : Reader κ σ (Tree ν)) : Prop where
  forward : Forward p
  origin_eq {c t d} : p c = some (t, d) → t.origin = origin c.tokens

structure Continues (first : Tree ν) (p : Reader κ σ (Tree ν)) : Prop where
  forward : Forward p
  origin_eq {c t d} : p c = some (t, d) → t.origin = first.origin

section Opens

variable {p q : Reader κ σ (Tree ν)} {first : Tree ν} {kind : ν}

theorem nodeOf_eq_some {r : Reader κ σ (ν × List (Tree ν))} {t : Tree ν} (h : nodeOf r c = some (t, d)) :
    (∃ kind, r c = some ((kind, t.children), d)) ∧ t.origin = origin c.tokens := by
  rw [nodeOf] at h
  split at h
  · cases h
  · next kind children e he =>
    split at h
    · next hnil =>
      obtain ⟨rfl, rfl⟩ := Prod.mk.inj (Option.some.inj h)
      exact ⟨⟨_, he⟩, by rw [origin, hnil]; rfl⟩
    · next token tokens hcons =>
      obtain ⟨rfl, rfl⟩ := Prod.mk.inj (Option.some.inj h)
      exact ⟨⟨_, he⟩, by rw [origin, hcons]; rfl⟩

theorem children_of_node {r : Reader κ σ (List (Tree ν))} {t : Tree ν} (h : node kind r c = some (t, d)) :
    r c = some (t.children, d) := by
  obtain ⟨⟨found, hfound⟩, -⟩ := nodeOf_eq_some h
  obtain ⟨children, e, hchildren, hpure⟩ := bind_eq_some_iff.1 hfound
  obtain ⟨hpair, rfl⟩ := pure_eq_some_iff.1 hpure
  rw [hchildren, (Prod.mk.inj hpair).2]

theorem Opens.node {r : Reader κ σ (List (Tree ν))} (hr : Forward r) : Opens (node kind r) where
  forward c t d h := by
    exact hr c _ d (children_of_node h)
  origin_eq h := (nodeOf_eq_some h).2

theorem Opens.leaf {r : Reader κ σ α} (hr : Forward r) : Opens (leaf kind r : Reader κ σ (Tree ν)) :=
  .node (.bind hr fun _ => .pure _)

theorem Opens.ite {P : Prop} [Decidable P] (hp : Opens p) (hq : Opens q) : Opens (if P then p else q) := by
  split
  · exact hp
  · exact hq

theorem Opens.failure : Opens (failure : Reader κ σ (Tree ν)) := ⟨.failure, fun h => nomatch h⟩

theorem Opens.firstOf_nil : Opens (firstOf [] : Reader κ σ (Tree ν)) := .failure

theorem Opens.firstOf_cons {ps : List (Reader κ σ (Tree ν))} (hp : Opens p) (hps : Opens (firstOf ps)) :
    Opens (firstOf (p :: ps)) where
  forward := .firstOf_cons hp.forward hps.forward
  origin_eq h := (or_of_firstOf_cons h).elim hp.origin_eq hps.origin_eq

theorem Continues.pure : Continues first (pure first : Reader κ σ (Tree ν)) where
  forward := .pure first
  origin_eq h := by rw [(pure_eq_some_iff.1 h).1]

theorem Continues.bind {r : Reader κ σ α} {g : α → Reader κ σ (Tree ν)} (hr : Forward r)
    (hg : ∀ a, Continues first (g a)) : Continues first (r >>= g) where
  forward := .bind hr fun a => (hg a).forward
  origin_eq h := by
    obtain ⟨a, e, -, ht⟩ := bind_eq_some_iff.1 h
    exact (hg a).origin_eq ht

theorem Continues.ite {P : Prop} [Decidable P] (hp : Continues first p) (hq : Continues first q) :
    Continues first (if P then p else q) := by
  split
  · exact hp
  · exact hq

theorem Continues.failure : Continues first (failure : Reader κ σ (Tree ν)) := ⟨.failure, fun h => nomatch h⟩

theorem Continues.firstOf_nil : Continues first (firstOf [] : Reader κ σ (Tree ν)) := .failure

theorem Continues.firstOf_cons {ps : List (Reader κ σ (Tree ν))} (hp : Continues first p)
    (hps : Continues first (firstOf ps)) : Continues first (firstOf (p :: ps)) where
  forward := .firstOf_cons hp.forward hps.forward
  origin_eq h := (or_of_firstOf_cons h).elim hp.origin_eq hps.origin_eq

theorem extend_eq_some {start : Nat} {r : Reader κ σ (List (Tree ν))} {t : Tree ν}
    (h : extend kind first start r c = some (t, d)) :
    (∃ children, r c = some (children, d)) ∧ t.origin = first.origin := by
  rw [extend] at h
  split at h
  · cases h
  · next children e he =>
    cases first with
    | node firstKind line source size below =>
      obtain ⟨rfl, rfl⟩ := Prod.mk.inj (Option.some.inj h)
      exact ⟨⟨children, he⟩, rfl⟩

theorem Continues.extend {start : Nat} {r : Reader κ σ (List (Tree ν))} (hr : Forward r) :
    Continues first (extend kind first start r) where
  forward c t d h := by
    obtain ⟨⟨children, hchildren⟩, -⟩ := extend_eq_some h
    exact hr c children d hchildren
  origin_eq h := (extend_eq_some h).2

theorem Opens.continue {g : Tree ν → Reader κ σ (Tree ν)} (hp : Opens p) (hg : ∀ t, Continues t (g t)) :
    Opens (p >>= g) where
  forward := .bind hp.forward fun t => (hg t).forward
  origin_eq h := by
    obtain ⟨t, e, hfirst, ht⟩ := bind_eq_some_iff.1 h
    exact ((hg t).origin_eq ht).trans (hp.origin_eq hfirst)

theorem Opens.look {r : Reader κ σ α} {g : α → Reader κ σ (Tree ν)} (hr : Looks r) (hg : ∀ a, Opens (g a)) :
    Opens (r >>= g) where
  forward := .bind hr.forward fun a => (hg a).forward
  origin_eq h := by
    obtain ⟨a, e, ha, ht⟩ := bind_eq_some_iff.1 h
    rw [hr _ a e ha]
    exact (hg a).origin_eq ht

theorem Opens.continue_separated {separator : Reader κ σ β} {g : List (Tree ν) → Reader κ σ (Tree ν)} (hp : Opens p)
    (hs : Forward separator) (hnil : Forward (g [])) (hg : ∀ t ts, Continues t (g (t :: ts))) :
    Opens (separated p separator >>= g) where
  forward := by
    refine .bind (.separated hp.forward hs) fun ts => ?_
    cases ts with
    | nil => exact hnil
    | cons t ts => exact (hg t ts).forward
  origin_eq h := by
    obtain ⟨us, e, hus, ht⟩ := bind_eq_some_iff.1 h
    obtain ⟨t, e', hfirst, hrest⟩ := bind_eq_some_iff.1 hus
    obtain ⟨ts, e'', -, hpure⟩ := bind_eq_some_iff.1 hrest
    obtain ⟨rfl, rfl⟩ := pure_eq_some_iff.1 hpure
    exact ((hg t ts).origin_eq ht).trans (hp.origin_eq hfirst)

theorem sublist_many_go (hp : Opens p) (fuel : Nat) (c : Cursor κ σ) :
    ((many.go p fuel c).1.map Tree.origin).Sublist (c.tokens.map Token.origin) := by
  induction fuel generalizing c with
  | zero => exact List.nil_sublist _
  | succ fuel ih =>
    rw [many.go]
    split
    · next t d ht =>
      split
      · next hless =>
        have horigin := hp.origin_eq ht
        have hsuffix := hp.forward c t d ht
        cases htokens : c.tokens with
        | nil => rw [htokens] at hless; exact absurd hless (Nat.not_lt_zero _)
        | cons token tokens =>
          rw [htokens] at horigin hsuffix hless
          -- a token was taken, so what is left lies behind the first one
          have hrest : d.tokens <:+ tokens := by
            rcases List.suffix_cons_iff.1 hsuffix with hall | hrest
            · rw [hall] at hless
              exact absurd hless (Nat.lt_irrefl _)
            · exact hrest
          rw [List.map_cons, List.map_cons, horigin]
          exact ((ih d).trans (hrest.sublist.map _)).cons_cons _
      · exact List.nil_sublist _
    · exact List.nil_sublist _

theorem sublist_many (hp : Opens p) {ts : List (Tree ν)} (h : many p c = some (ts, d)) :
    (ts.map Tree.origin).Sublist (c.tokens.map Token.origin) := by
  have hgo := sublist_many_go hp c.tokens.length c
  rw [Option.some.inj h] at hgo
  exact hgo

end Opens

end Reader

end Demarcation.Grammar
