import Mathlib.Data.List.Nodup
import Demarcation.Document.Toml

/-!
No table of a document that is read from a text has a key twice (`distinct_read`). All tables begin empty, and all entries
are put into them by key.
-/

namespace Demarcation.Document

variable {R : Type} {key : String} {value d : Document R} {entries : List (String × Document R)}

inductive Distinct : Document R → Prop where
  | null : Distinct .null
  | bool (b : Bool) : Distinct (.bool b)
  | int (i : Int) : Distinct (.int i)
  | number (x : R) : Distinct (.number x)
  | text (s : String) : Distinct (.text s)
  | moment (m : Moment) : Distinct (.moment m)
  | list {items : List (Document R)} (h : ∀ d ∈ items, Distinct d) : Distinct (.list items)
  | table {entries : List (String × Document R)} (hkeys : (entries.map Prod.fst).Nodup)
      (h : ∀ e ∈ entries, Distinct e.2) : Distinct (.table entries)

section Tables

theorem mem_of_find? (h : find? key entries = some d) : (key, d) ∈ entries := by
  induction entries with
  | nil => cases h
  | cons e rest ih =>
    by_cases hkey : e.1 = key
    · rw [find?, if_pos hkey, Option.some_inj] at h
      rw [← hkey, ← h]
      exact List.mem_cons_self
    · rw [find?, if_neg hkey] at h
      exact List.mem_cons_of_mem e (ih h)

theorem mem_of_mem_put {e : String × Document R} (h : e ∈ put key value entries) : e ∈ entries ∨ e.2 = value := by
  induction entries with
  | nil =>
    rw [List.mem_singleton.1 h]
    exact Or.inr rfl
  | cons first rest ih =>
    by_cases hkey : first.1 = key
    · rw [put, if_pos hkey, List.mem_cons] at h
      obtain rfl | h := h
      · exact Or.inr rfl
      · exact Or.inl (List.mem_cons_of_mem first h)
    · rw [put, if_neg hkey, List.mem_cons] at h
      obtain rfl | h := h
      · exact Or.inl List.mem_cons_self
      · exact (ih h).imp_left (List.mem_cons_of_mem first)

theorem keys_put :
    (put key value entries).map Prod.fst =
      if key ∈ entries.map Prod.fst then entries.map Prod.fst else entries.map Prod.fst ++ [key] := by
  induction entries with
  | nil => rfl
  | cons e rest ih =>
    by_cases hkey : e.1 = key
    · simp [put, hkey]
    · by_cases hrest : key ∈ rest.map Prod.fst
      · rw [if_pos hrest] at ih
        rw [put, if_neg hkey, List.map_cons, List.map_cons, ih, if_pos (List.mem_cons_of_mem e.1 hrest)]
      · have hnot : key ∉ e.1 :: rest.map Prod.fst := by
          rw [List.mem_cons, not_or]
          exact ⟨Ne.symm hkey, hrest⟩
        rw [if_neg hrest] at ih
        rw [put, if_neg hkey, List.map_cons, List.map_cons, ih, if_neg hnot]
        rfl

theorem nodup_keys_put (h : (entries.map Prod.fst).Nodup) : ((put key value entries).map Prod.fst).Nodup := by
  rw [keys_put]
  split
  · exact h
  · next hkey => exact List.nodup_append_comm.1 (List.nodup_cons.2 ⟨hkey, h⟩)

theorem distinct_empty : (table [] : Document R).Distinct := .table List.nodup_nil (fun _ he => nomatch he)

theorem Distinct.nodup_keys (h : (Document.table entries).Distinct) : (entries.map Prod.fst).Nodup := by
  cases h with
  | table hkeys _ => exact hkeys

theorem Distinct.of_find? (h : (Document.table entries).Distinct) (hd : find? key entries = some d) : d.Distinct := by
  cases h with
  | table _ hvalues => exact hvalues _ (mem_of_find? hd)

theorem Distinct.put (h : (Document.table entries).Distinct) (hvalue : value.Distinct) :
    (Document.table (put key value entries)).Distinct := by
  cases h with
  | table hkeys hvalues =>
    refine .table (nodup_keys_put hkeys) fun e he => ?_
    obtain hold | hnew := mem_of_mem_put he
    · exact hvalues e hold
    · exact hnew ▸ hvalue

theorem Distinct.of_mem {items : List (Document R)} (h : (Document.list items).Distinct) (hd : d ∈ items) : d.Distinct := by
  cases h with
  | list hitems => exact hitems d hd

end Tables

namespace Toml

section Values

theorem distinct_insertAt {value : Option (Document R)} {levels : List String} {d d' : Document R}
    (hvalue : ∀ v, value = some v → v.Distinct) (hd : d.Distinct) (h : insertAt key value levels d = .ok d') :
    d'.Distinct := by
  induction levels generalizing d d' with
  | nil =>
    cases d with
    | table entries =>
      cases hkey : find? key entries with
      | some v =>
        simp only [insertAt, hkey] at h
        cases h
      | none =>
        simp only [insertAt, hkey] at h
        cases value with
        | none =>
          cases h
          exact hd
        | some v =>
          cases h
          exact hd.put (hvalue v rfl)
    | _ => cases h
  | cons level levels ih =>
    cases d with
    | table entries =>
      rw [insertAt] at h
      obtain ⟨below, hbelow, h⟩ := exists_of_bind_eq_ok h
      cases h
      refine hd.put (ih ?_ hbelow)
      cases hlevel : find? level entries with
      | none => exact distinct_empty
      | some v => exact hd.of_find? hlevel
    | _ => cases h

variable [Scalar R]

theorem distinct_readNumber {v : List Char} {k : Kind} (h : readNumber v = .ok (d, k)) : d.Distinct := by
  dsimp only [readNumber] at h
  split at h
  · obtain ⟨-, -, h⟩ := exists_of_bind_eq_ok h
    obtain ⟨-, -, h⟩ := exists_of_bind_eq_ok h
    obtain ⟨x, -, h⟩ := exists_of_bind_eq_ok h
    cases h
    exact .number _
  · split at h
    · obtain ⟨x, -, h⟩ := exists_of_bind_eq_ok h
      cases h
      exact .number _
    · split at h
      · cases h
        exact .int _
      · cases h

theorem distinct_readPlain {strict : Bool} {v : List Char} {k : Kind} (h : readPlain strict v = .ok (d, k)) :
    d.Distinct := by
  unfold readPlain at h
  split at h
  · obtain ⟨m, -, h⟩ := exists_of_bind_eq_ok h
    cases h
    exact .moment m
  · split at h
    · cases h
      exact .moment _
    · split at h
      · exact distinct_readNumber h
      · cases h

variable {fuel : Nat} {strict : Bool} {v line : List Char} {k : Kind} {kind : Option Kind} {lines items : List (List Char)}
  {ds : List (Document R)} {d' : Document R} {long : Option LongText}

variable (R) in
structure ReadsDistinct (fuel : Nat) : Prop where
  value : ∀ {strict v k} {d : Document R}, readValue strict fuel v = .ok (d, k) → d.Distinct
  items : ∀ {kind items} {ds : List (Document R)}, readItems fuel kind items = .ok ds → ∀ d ∈ ds, d.Distinct
  entries : ∀ {lines} {d d' : Document R}, d.Distinct → readEntries fuel d lines = .ok d' → d'.Distinct
  entry : ∀ {line long} {d d' : Document R}, d.Distinct → readEntry fuel d line = .ok (d', long) → d'.Distinct

namespace ReadsDistinct

variable (hread : ReadsDistinct R fuel)

include hread

theorem value_succ (h : readValue strict (fuel + 1) v = .ok (d, k)) : d.Distinct := by
  cases v with
  | nil => cases h
  | cons c cs =>
    dsimp only [readValue] at h
    split at h
    · cases h
      exact .bool true
    split at h
    · cases h
      exact .bool false
    split at h
    · cases h
    split at h
    · obtain ⟨s, -, h⟩ := exists_of_bind_eq_ok h
      cases h
      exact .text s
    split at h
    · obtain ⟨items, -, h⟩ := exists_of_bind_eq_ok h
      obtain ⟨ds, hds, h⟩ := exists_of_bind_eq_ok h
      cases h
      exact .list (hread.items hds)
    split at h
    · obtain ⟨lines, -, h⟩ := exists_of_bind_eq_ok h
      obtain ⟨d, hd, h⟩ := exists_of_bind_eq_ok h
      cases h
      exact hread.entries distinct_empty hd
    exact distinct_readPlain h

theorem items_succ (h : readItems (fuel + 1) kind items = .ok ds) : ∀ d ∈ ds, d.Distinct := by
  cases items with
  | nil =>
    cases h
    exact List.forall_mem_nil _
  | cons item items =>
    dsimp only [readItems] at h
    split at h
    · exact hread.items h
    · obtain ⟨⟨d, k⟩, hd, h⟩ := exists_of_bind_eq_ok h
      obtain ⟨-, -, h⟩ := exists_of_bind_eq_ok h
      obtain ⟨rest, hrest, h⟩ := exists_of_bind_eq_ok h
      cases h
      exact List.forall_mem_cons.2 ⟨hread.value hd, hread.items hrest⟩

theorem entries_succ (hd : d.Distinct) (h : readEntries (fuel + 1) d lines = .ok d') : d'.Distinct := by
  cases lines with
  | nil =>
    cases h
    exact hd
  | cons line lines =>
    dsimp only [readEntries] at h
    obtain ⟨⟨next, long⟩, hnext, h⟩ := exists_of_bind_eq_ok h
    have hdistinct : next.Distinct := hread.entry hd hnext
    cases long with
    | none => exact hread.entries hdistinct h
    | some long =>
      cases h
      exact hdistinct

theorem entry_succ (hd : d.Distinct) (h : readEntry (fuel + 1) d line = .ok (d', long)) : d'.Distinct := by
  dsimp only [readEntry] at h
  obtain ⟨⟨key, v, strict⟩, -, h⟩ := exists_of_bind_eq_ok h
  obtain ⟨⟨levels, key⟩, -, h⟩ := exists_of_bind_eq_ok h
  obtain ⟨isOpen, -, h⟩ := exists_of_bind_eq_ok h
  split at h
  · obtain ⟨after, hafter, h⟩ := exists_of_bind_eq_ok h
    cases h
    refine distinct_insertAt (fun v hv => ?_) hd hafter
    cases hv
  · obtain ⟨⟨value, k⟩, hvalue, h⟩ := exists_of_bind_eq_ok h
    obtain ⟨after, hafter, h⟩ := exists_of_bind_eq_ok h
    cases h
    refine distinct_insertAt (fun v hv => ?_) hd hafter
    cases hv
    exact hread.value hvalue

end ReadsDistinct

theorem readsDistinct (fuel : Nat) : ReadsDistinct R fuel := by
  -- The readers call each other with less fuel, so all four are carried through one induction.
  induction fuel with
  | zero =>
    constructor
    · intro strict v k d h
      cases h
    · intro kind items ds h
      cases h
    · intro lines d d' hd h
      cases h
    · intro line long d d' hd h
      cases h
  | succ fuel ih => exact ⟨ih.value_succ, ih.items_succ, ih.entries_succ, ih.entry_succ⟩

end Values

section Places

variable {steps : List Step} {d' : Document R} {f : Document R → Except Fault (Document R)}

theorem distinct_follow (hd : d.Distinct) (h : follow steps d = .ok d') : d'.Distinct := by
  induction steps generalizing d with
  | nil =>
    cases h
    exact hd
  | cons step steps ih =>
    cases step with
    | key name =>
      cases d with
      | table entries =>
        cases hname : find? name entries with
        | some found =>
          simp only [follow, hname] at h
          exact ih (hd.of_find? hname) h
        | none =>
          simp only [follow, hname] at h
          cases h
      | _ => cases h
    | last =>
      cases d with
      | list items =>
        cases hlast : items.getLast? with
        | some found =>
          simp only [follow, hlast] at h
          exact ih (hd.of_mem (List.mem_of_getLast? hlast)) h
        | none =>
          simp only [follow, hlast] at h
          cases h
      | _ => cases h

theorem distinct_modify (hf : ∀ {d d'}, d.Distinct → f d = .ok d' → d'.Distinct) (hd : d.Distinct)
    (h : modify f steps d = .ok d') : d'.Distinct := by
  induction steps generalizing d d' with
  | nil => exact hf hd h
  | cons step steps ih =>
    cases step with
    | key name =>
      cases d with
      | table entries =>
        cases hname : find? name entries with
        | some found =>
          simp only [modify, hname] at h
          obtain ⟨after, hafter, h⟩ := exists_of_bind_eq_ok h
          cases h
          exact hd.put (ih (hd.of_find? hname) hafter)
        | none =>
          simp only [modify, hname] at h
          cases h
      | _ => cases h
    | last =>
      cases d with
      | list items =>
        cases hlast : items.getLast? with
        | some found =>
          simp only [modify, hlast] at h
          obtain ⟨after, hafter, h⟩ := exists_of_bind_eq_ok h
          cases h
          refine .list fun d hmem => ?_
          obtain hmem | hmem := List.mem_append.1 hmem
          · exact hd.of_mem (List.dropLast_subset _ hmem)
          · rw [List.mem_singleton.1 hmem]
            exact ih (hd.of_mem (List.mem_of_getLast? hlast)) hafter
        | none =>
          simp only [modify, hlast] at h
          cases h
      | _ => cases h

end Places

namespace Reading

variable {s s' : Reading R} {doubled : Bool} {name : String}

theorem distinct_emptyTable (doubled isLast : Bool) : (emptyTable doubled isLast : Document R).Distinct := by
  unfold emptyTable
  split
  · refine .list fun d hd => ?_
    rw [List.mem_singleton.1 hd]
    exact distinct_empty
  · exact distinct_empty

theorem distinct_addTable {isLast : Bool} (hs : s.root.Distinct)
    (h : descend.addTable doubled name isLast s = .ok d) : d.Distinct := by
  refine distinct_modify ?_ hs h
  intro d d' hd hput
  cases d with
  | table entries =>
    cases hput
    exact hd.put (distinct_emptyTable doubled isLast)
  | _ => cases hput

theorem distinct_enter {isLast : Bool} (hs : s.root.Distinct) (hentries : (Document.table entries).Distinct)
    (h : descend.enter doubled name isLast s entries = .ok s') : s'.root.Distinct := by
  unfold descend.enter at h
  split at h
  · obtain ⟨root, hroot, h⟩ := exists_of_bind_eq_ok h
    cases h
    exact distinct_addTable hs hroot
  · next found hfound =>
    split at h
    · cases h
      exact hs
    split at h
    · split at h
      · cases h
      · cases h
        exact hs
    split at h
    · cases found with
      | list items =>
        obtain ⟨root, hroot, h⟩ := exists_of_bind_eq_ok h
        cases h
        refine distinct_modify (fun hd hnew => ?_) hs hroot
        cases hnew
        refine .list fun d hmem => ?_
        obtain hmem | hmem := List.mem_append.1 hmem
        · exact (hentries.of_find? hfound).of_mem hmem
        · rw [List.mem_singleton.1 hmem]
          exact distinct_empty
      | _ => cases h
    · cases h

theorem distinct_provide {isLast : Bool} (hs : s.root.Distinct)
    (h : descend.provide doubled name isLast s = .ok s') : s'.root.Distinct := by
  unfold descend.provide at h
  obtain ⟨here, hhere, h⟩ := exists_of_bind_eq_ok h
  have hdistinct : here.Distinct := distinct_follow hs hhere
  split at h
  · exact distinct_enter hs hdistinct h
  · split at h
    · cases h
    · split at h
      · cases h
        exact hs
      · obtain ⟨root, hroot, h⟩ := exists_of_bind_eq_ok h
        cases h
        have hlast : ({ s with path := s.path ++ [.last] } : Reading R).root.Distinct := hs
        exact distinct_addTable hlast hroot
    · cases h
  · cases h

theorem root_eq_of_advance (h : descend.advance doubled name s = .ok s') : s'.root = s.root := by
  unfold descend.advance at h
  dsimp only at h
  split at h
  · obtain ⟨here, -, h⟩ := exists_of_bind_eq_ok h
    split at h
    · cases h
    · cases h
      rfl
    · cases h
      rfl
    · cases h
  · cases h
    rfl

theorem distinct_enterAll {names : List String} (hs : s.root.Distinct) (h : enterAll doubled s names = .ok s') :
    s'.root.Distinct := by
  induction names generalizing s with
  | nil =>
    cases h
    exact hs
  | cons name names ih =>
    obtain ⟨-, -, h⟩ := exists_of_bind_eq_ok h
    obtain ⟨next, hnext, h⟩ := exists_of_bind_eq_ok h
    obtain ⟨provided, hprovided, hnext⟩ := exists_of_bind_eq_ok hnext
    have hdistinct : next.root.Distinct := root_eq_of_advance hnext ▸ distinct_provide hs hprovided
    exact ih hdistinct h

variable [Scalar R]

theorem distinct_continueLong {t : LongText} {line : List Char} (hs : s.root.Distinct)
    (h : s.continueLong t line = .ok s') : s'.root.Distinct := by
  unfold continueLong at h
  obtain ⟨isClosed, -, h⟩ := exists_of_bind_eq_ok h
  split at h
  · obtain ⟨⟨value, k⟩, hvalue, h⟩ := exists_of_bind_eq_ok h
    obtain ⟨root, hroot, h⟩ := exists_of_bind_eq_ok h
    cases h
    refine distinct_modify (fun {d d'} hd hput => ?_) hs hroot
    cases d with
    | table entries =>
      cases hput
      exact hd.put ((readsDistinct _).value hvalue)
    | _ => cases hput
  · cases h
    exact hs

theorem distinct_readLine {line : List Char} (hs : s.root.Distinct) (h : s.readLine line = .ok s') :
    s'.root.Distinct := by
  unfold readLine at h
  split at h
  · obtain ⟨⟨names, doubled⟩, -, h⟩ := exists_of_bind_eq_ok h
    have hstart : ({ s with path := [] } : Reading R).root.Distinct := hs
    exact distinct_enterAll hstart h
  · obtain ⟨-, -, h⟩ := exists_of_bind_eq_ok h
    obtain ⟨lines, -, h⟩ := exists_of_bind_eq_ok h
    obtain ⟨root, hroot, h⟩ := exists_of_bind_eq_ok h
    cases h
    exact distinct_modify (fun hd hread => (readsDistinct _).entries hd hread) hs hroot
  · split at h
    · obtain ⟨here, hhere, h⟩ := exists_of_bind_eq_ok h
      obtain ⟨⟨d, long⟩, hd, h⟩ := exists_of_bind_eq_ok h
      obtain ⟨root, hroot, h⟩ := exists_of_bind_eq_ok h
      cases h
      have hdistinct : d.Distinct := (readsDistinct _).entry (distinct_follow hs hhere) hd
      refine distinct_modify (fun _ hnew => ?_) hs hroot
      cases hnew
      exact hdistinct
    · cases h
      exact hs

theorem distinct_step {line : List Char} (hs : s.root.Distinct) (h : s.step line = .ok s') : s'.root.Distinct := by
  unfold step at h
  split at h
  · dsimp only at h
    split at h
    · cases h
      exact hs
    · exact distinct_readLine hs h
  · next t ht =>
    obtain ⟨content, h⟩ : ∃ content, (if (content.isEmpty && t.joined) = true then Except.ok s else
      s.continueLong t content) = .ok s' := ⟨_, h⟩
    split at h
    · cases h
      exact hs
    · exact distinct_continueLong hs h

theorem distinct_foldlM {lines : List (List Char)} (hs : s.root.Distinct) (h : lines.foldlM step s = .ok s') :
    s'.root.Distinct := by
  induction lines generalizing s with
  | nil =>
    cases h
    exact hs
  | cons line lines ih =>
    obtain ⟨next, hnext, h⟩ := exists_of_bind_eq_ok h
    exact ih (distinct_step hs hnext) h

end Reading

theorem distinct_read [Scalar R] {text : String} (h : read text = .ok d) : d.Distinct := by
  unfold read at h
  obtain ⟨lines, -, h⟩ := exists_of_bind_eq_ok h
  obtain ⟨s, hs, h⟩ := exists_of_bind_eq_ok h
  cases h
  exact Reading.distinct_foldlM distinct_empty hs

end Toml

end Demarcation.Document
