import Demarcation.Language.GoDeclarations
import Demarcation.Proofs.DocumentOrder
import Demarcation.Proofs.GoCalls
import Demarcation.Proofs.GoReaders

namespace Demarcation

namespace Grammar

/-- A place of a text is reached from another one by moving over characters. A place is told by its line and by the text
from there on. -/
def Reaches (a b : Nat × List Char) : Prop := a.1 ≤ b.1 ∧ b.2 <:+ a.2

def Precedes (a b : Nat × List Char) : Prop := Reaches a b ∧ b.2.length < a.2.length

theorem Reaches.refl (a : Nat × List Char) : Reaches a a := ⟨Nat.le_refl _, List.suffix_rfl⟩

theorem Reaches.trans {a b c : Nat × List Char} (h : Reaches a b) (h' : Reaches b c) : Reaches a c :=
  ⟨h.1.trans h'.1, h'.2.trans h.2⟩

theorem Precedes.reaches {a b c : Nat × List Char} (h : Precedes a b) (h' : Reaches b c) : Precedes a c :=
  ⟨h.1.trans h', h'.2.length_le.trans_lt h.2⟩

namespace Place

def origin (p : Place) : Nat × List Char := (p.line, p.rest)

theorem reaches_skip (p : Place) (n : Nat) : Reaches p.origin (p.skip n).origin :=
  ⟨Nat.le_add_right _ _, List.drop_suffix _ _⟩

theorem precedes_take {κ : Type} {p : Place} {kind : κ} {n : Nat} (hn : 0 < n) (hp : p.rest ≠ []) :
    Precedes p.origin (p.take kind n).2.origin := by
  refine ⟨reaches_skip p n, ?_⟩
  have hlength := List.length_pos_iff.2 hp
  change (p.rest.drop n).length < p.rest.length
  rw [List.length_drop]
  omega

end Place

end Grammar

namespace Go

open Grammar Grammar.Tree Grammar.Place

theorem reaches_skipGap (fuel : Nat) (p : Place) : Reaches p.origin (skipGap fuel p).origin := by
  induction fuel generalizing p with
  | zero => exact .refl _
  | succ fuel ih =>
    rw [skipGap]
    split
    · exact (reaches_skip p _).trans (ih _)
    · split
      · exact (reaches_skip p _).trans (ih _)
      · exact .refl _
    · split
      · refine .trans ?_ (ih _)
        exact reaches_skip p 1
      · exact .refl _
    · exact .refl _

theorem pos_of_decimal {cs : List Char} {n : Nat} (h : decimal cs = some n) : 0 < n := by
  unfold decimal at h
  extract_lets whole after fraction total at h
  have htotal : whole + fraction ≤ total := Nat.le_add_right _ _
  split at h
  · cases h
  · next hsome =>
    have hpos : 0 < total := by omega
    split at h
    · split at h
      · exact Option.some.inj h ▸ Nat.succ_pos _
      · exact Option.some.inj h ▸ hpos
    · exact Option.some.inj h ▸ hpos

theorem pos_of_map_add_two {o : Option Nat} {n : Nat} (h : o.map (· + 2) = some n) : 0 < n := by
  obtain ⟨m, -, rfl⟩ := Option.map_eq_some_iff.1 h
  exact Nat.succ_pos _

theorem pos_of_imaginary {cs : List Char} {o : Option Nat} {n : Nat} (ho : ∀ {m}, o = some m → 0 < m)
    (h : (do
      let m ← o
      match cs.drop m with
      | 'i' :: _ => return m + 1
      | _ => return m) = some n) : 0 < n := by
  obtain ⟨m, hm, hn⟩ := Option.bind_eq_some_iff.1 h
  split at hn
  · exact Option.some.inj hn ▸ Nat.succ_pos m
  · exact Option.some.inj hn ▸ ho hm

theorem pos_of_number? {cs : List Char} {n : Nat} (h : number? cs = some n) : 0 < n := by
  unfold number? at h
  split at h
  · split at h
    · exact pos_of_imaginary pos_of_map_add_two h
    · split at h
      · exact pos_of_imaginary pos_of_map_add_two h
      · split at h
        · exact pos_of_imaginary pos_of_map_add_two h
        · exact pos_of_imaginary pos_of_decimal h
  · exact pos_of_imaginary pos_of_decimal h

theorem pos_of_markAt {cs : List Char} {n : Nat} (h : markAt marks cs = some n) : 0 < n := by
  have hall : ∀ m ∈ marks, 0 < m.length := by decide
  obtain ⟨m, hm, rfl⟩ := Option.map_eq_some_iff.1 h
  exact hall m (List.mem_of_find?_eq_some hm)

theorem exists_take_of_tokenAt? {p q : Place} {t : Token} (h : tokenAt? p = some (t, q)) :
    ∃ kind n, p.take kind n = (t, q) ∧ (kind = .finish ∨ 0 < n ∧ p.rest ≠ []) := by
  have htaken {kind : TokenKind} {o : Option Nat} {c : Char} {cs : List Char} (hrest : p.rest = c :: cs)
      (hsome : (do return p.take kind ((← o) + 1)) = some (t, q)) :
      ∃ kind n, p.take kind n = (t, q) ∧ (kind = .finish ∨ 0 < n ∧ p.rest ≠ []) := by
    obtain ⟨n, -, hn⟩ := Option.bind_eq_some_iff.1 hsome
    exact ⟨kind, n + 1, Option.some.inj hn, .inr ⟨Nat.succ_pos n, by simp [hrest]⟩⟩
  rw [tokenAt?] at h
  split at h
  · exact ⟨.finish, 0, Option.some.inj h, .inl rfl⟩
  · next hrest => exact htaken hrest h
  · next hrest => exact htaken hrest h
  · next hrest => exact htaken hrest h
  · next c cs _ _ _ hrest =>
    have hne : p.rest ≠ [] := by simp [hrest]
    split at h
    · exact ⟨_, _, Option.some.inj h, .inr ⟨Nat.succ_pos _, hne⟩⟩
    · split at h
      · next n hn => exact ⟨_, n, Option.some.inj h, .inr ⟨pos_of_number? hn, hne⟩⟩
      · obtain ⟨n, hn, hmark⟩ := Option.bind_eq_some_iff.1 h
        exact ⟨_, n, Option.some.inj hmark, .inr ⟨pos_of_markAt hn, hne⟩⟩

theorem tokensFrom_ordered {fuel : Nat} {p : Place} {ts : List Token} (h : tokensFrom fuel p = some ts) :
    (∀ t ∈ ts, Reaches p.origin t.origin) ∧ ts.Pairwise fun s t => Precedes s.origin t.origin := by
  induction fuel generalizing p ts with
  | zero => cases h
  | succ fuel ih =>
    rw [tokensFrom] at h
    obtain ⟨⟨t, q⟩, ht, hts⟩ := Option.bind_eq_some_iff.1 h
    dsimp only at hts
    have hgap := reaches_skipGap (p.rest.length + 1) p
    obtain ⟨kind, n, htake, hsome⟩ := exists_take_of_tokenAt? ht
    generalize skipGap (p.rest.length + 1) p = gap at hgap htake hsome
    have hfirst : gap.origin = t.origin := congrArg (fun r => r.1.origin) htake
    have hkind : kind = t.kind := congrArg (fun r => r.1.kind) htake
    rw [hfirst] at hgap
    split at hts
    · obtain rfl := Option.some.inj hts
      exact ⟨List.forall_mem_singleton.2 hgap, List.pairwise_singleton _ _⟩
    · next hmore =>
      obtain ⟨rest, hrest, hcons⟩ := Option.bind_eq_some_iff.1 hts
      obtain rfl := Option.some.inj hcons
      obtain ⟨hn, hne⟩ := hsome.resolve_left (hkind ▸ hmore)
      have htaken : Precedes gap.origin (gap.take kind n).2.origin := precedes_take hn hne
      rw [hfirst, htake] at htaken
      obtain ⟨hplaces, hordered⟩ := ih hrest
      refine ⟨List.forall_mem_cons.2 ⟨hgap, fun u hu => ?_⟩, List.pairwise_cons.2 ⟨fun u hu => ?_, hordered⟩⟩
      · exact (hgap.trans htaken.1).trans (hplaces u hu)
      · exact htaken.reaches (hplaces u hu)

theorem tokens_ordered {cs : List Char} {ts : List Token} (h : tokens? cs = some ts) :
    (∀ t ∈ ts, Reaches (1, cs) t.origin) ∧ ts.Pairwise fun s t => Precedes s.origin t.origin := by
  unfold tokens? at h
  extract_lets p at h
  split at h
  · obtain ⟨hplaces, hordered⟩ := tokensFrom_ordered h
    exact ⟨fun t ht => (reaches_skip p 1).trans (hplaces t ht), hordered⟩
  · exact tokensFrom_ordered h

theorem sublist_of_parse? {text : String} {t : Tree} (h : parse? text = some t) :
    ∃ ts, tokens? text.toList = some ts ∧ (t.children.map Tree.origin).Sublist (ts.map Token.origin) := by
  obtain ⟨ts, hts, hrun⟩ := Option.bind_eq_some_iff.1 h
  obtain ⟨⟨u, d⟩, hfile, rfl⟩ := Option.map_eq_some_iff.1 hrun
  obtain ⟨items, e, hmany, hrest⟩ := Reader.bind_eq_some_iff.1 (Reader.children_of_node hfile)
  obtain ⟨finish, e', -, hpure⟩ := Reader.bind_eq_some_iff.1 hrest
  have hitems : items = u.children := (Reader.pure_eq_some_iff.1 hpure).1
  exact ⟨ts, hts, hitems ▸ Reader.sublist_many (opens_fileItem (opens_read _)) hmany⟩

theorem children_ordered {text : String} {t : Tree} (h : parse? text = some t) :
    (∀ u ∈ t.children, Reaches (1, text.toList) u.origin) ∧
      t.children.Pairwise fun u v => Precedes u.origin v.origin := by
  obtain ⟨ts, hts, hsub⟩ := sublist_of_parse? h
  obtain ⟨hplaces, hordered⟩ := tokens_ordered hts
  constructor
  · intro u hu
    obtain ⟨s, hs, horigin⟩ := List.mem_map.1 (hsub.subset (List.mem_map_of_mem hu))
    exact horigin ▸ hplaces s hs
  · have horigins := (List.pairwise_map.2 hordered).sublist hsub
    exact List.pairwise_map.1 horigins

def typeName? (t : Tree) : Option String :=
  if t.kind = .typeName ∧ t.text ∉ builtinTypes ∧ t.text ≠ "" then some t.text else none

theorem typeNames_eq (t : Tree) : typeNames [t] = (t.preorder.filterMap typeName?).eraseDups := by
  rw [typeNames, visit_eq_preorder, distinctNames]
  congr 1
  induction t.preorder with
  | nil => rfl
  | cons u us ih => grind [typeName?]

theorem calledNames_eq (t : Tree) : calledNames t = (t.preorder.filterMap calledName?).eraseDups := by
  have hnamed : ∀ name ∈ t.preorder.filterMap calledName?, decide (name ≠ "") = true := by
    intro name hname
    obtain ⟨u, -, hcalled⟩ := List.mem_filterMap.1 hname
    obtain ⟨-, -, -, -, -, -, -, hne, -⟩ := calledName?_eq_some_iff.1 hcalled
    exact decide_eq_true hne
  rw [calledNames, visit_eq_preorder, distinctNames, List.filter_eq_self.2 hnamed]

theorem owner_eq (file : String) (f : Tree) :
    (functionDeclarationOf file f).owner = (f.child? .receiver).bind fun r => r.preorder.findSome? typeName? := by
  have howner : (functionDeclarationOf file f).owner =
      ((f.child? .receiver).map fun r => typeNames [r]).bind (·.head?) := rfl
  rw [howner, Option.bind_map]
  congr 1
  funext r
  rw [Function.comp_apply, typeNames_eq, ← List.head?_filterMap]
  cases r.preorder.filterMap typeName? with
  | nil => rfl
  | cons name names => rw [List.eraseDups_cons, List.head?_cons, List.head?_cons]

/-- A walk through a syntax tree meets each node once, before the nodes below it and from left to right. The types and
the calls in a tree are listed in this order, each at its first place, and so are the functions of a file, each with its
table accesses. In a tree that was read from a text the functions follow each other as they do in the text. -/
theorem extract_in_source_order :
    (∀ t : Tree,
      (∀ nodes, Walks [t] nodes ↔ nodes = t.preorder) ∧ InDocumentOrder t t.preorder ∧
        visit (fun _ => false) [t] = t.preorder ∧
        typeNames [t] = (t.preorder.filterMap typeName?).eraseDups ∧
        calledNames t = (t.preorder.filterMap calledName?).eraseDups) ∧
    (∀ (file : String) (t : Tree),
      (t.childrenOf .function).Sublist t.preorder ∧
        (declarations file t).functions = (t.childrenOf .function).map (functionDeclarationOf file) ∧
        (declarations file t).accesses = (t.childrenOf .function).flatMap fun f =>
          (functionDeclarationOf file f).accesses) ∧
    ∀ text file t, parse? text = some t →
      extract text file = .ok (declarations file t) ∧
        (∀ f ∈ t.childrenOf .function, Reaches (1, text.toList) f.origin) ∧
        (t.childrenOf .function).Pairwise fun f g => Precedes f.origin g.origin := by
  have hfunctions (t : Tree) : (t.childrenOf .function).Sublist t.children := List.filter_sublist
  refine ⟨fun t => ?_, fun file t => ?_, fun text file t hparse => ?_⟩
  · refine ⟨fun nodes => ?_, inDocumentOrder_preorder t, visit_eq_preorder t, typeNames_eq t, calledNames_eq t⟩
    rw [walks_iff, List.reverse_singleton, visit_eq_preorder]
  · rw [declarations_eq]
    exact ⟨(hfunctions t).trans (children_sublist_preorder t), rfl, List.flatMap_map _ _ _⟩
  · obtain ⟨hplaces, hordered⟩ := children_ordered hparse
    exact ⟨by rw [extract, hparse], fun f hf => hplaces f ((hfunctions t).subset hf), hordered.sublist (hfunctions t)⟩

def usersAndOrders : String :=
  "package store\n\nfunc Users() \x7b\n\tfind(\"SELECT id FROM users\")\n\x7d\n\n" ++
    "func (s *Store) DeleteOrders() \x7b\n\ts.run(\"DELETE FROM orders\")\n\x7d\n"

theorem extract_in_source_order_usersAndOrders :
    ∃ t, parse? usersAndOrders = some t ∧ extract usersAndOrders "store.go" = .ok (declarations "store.go" t) ∧
      ((t.childrenOf .function).Pairwise fun f g => Precedes f.origin g.origin) ∧
      (t.childrenOf .function).map (·.line) = [3, 7] ∧
      (declarations "store.go" t).accesses.map (fun a => (a.function, a.operation, a.table)) =
        [("Users", .select, "users"), ("DeleteOrders", .delete, "orders")] := by
  have hfound : (parse? usersAndOrders).map (fun t => ((t.childrenOf .function).map (·.line),
      (declarations "store.go" t).accesses.map fun a => (a.function, a.operation, a.table))) =
        some ([3, 7], [("Users", .select, "users"), ("DeleteOrders", .delete, "orders")]) := by
    decide +kernel
  obtain ⟨t, hparse, hpair⟩ := Option.map_eq_some_iff.1 hfound
  obtain ⟨hlines, haccesses⟩ := Prod.mk.inj hpair
  obtain ⟨-, -, hfile⟩ := extract_in_source_order
  obtain ⟨hextract, -, hordered⟩ := hfile usersAndOrders "store.go" t hparse
  exact ⟨t, hparse, hextract, hordered, hlines, haccesses⟩

end Go

end Demarcation
