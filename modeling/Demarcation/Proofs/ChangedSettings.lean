import Demarcation.Proofs.FloatOrder
import Demarcation.Proofs.SavedSettings
import Demarcation.Proofs.SettingChecks

namespace Demarcation.Settings

open Document

variable {R : Type} [Scalar R] {t : FileTree} {home key raw : String} {given : Layer R} {value : Document R} {c : Settings R}

section Calls

variable (R)

def acceptedValue (key raw : String) : Option (Document R) :=
  (coerce key raw).toOption.filter fun value => (ofLayer [(key, value)]).toOption.isSome

def accepted (calls : List (String × String)) : Layer R :=
  calls.filterMap fun call => (acceptedValue R call.1 call.2).map (call.1, ·)

def changeNext (home : String) (done : FileTree × Layer R) (call : String × String) : FileTree × Layer R :=
  let (t, result) := change R done.1 home call.1 call.2
  match result with
  | .ok (value, saved) => (t, if saved.saved then done.2 ++ [(call.1, value)] else done.2)
  | .error _ => (t, done.2)

def changeAll (t : FileTree) (home : String) (calls : List (String × String)) : FileTree × Layer R :=
  calls.foldl (changeNext R home) (t, [])

variable {R}

theorem acceptedValue_eq_some_iff :
    acceptedValue R key raw = some value ↔ coerce key raw = .ok value ∧ ∃ c, ofLayer [(key, value)] = .ok c := by
  unfold acceptedValue
  constructor
  · intro h
    obtain ⟨hcoerce, hvalid⟩ := Option.filter_eq_some_iff.1 h
    obtain ⟨c, hc⟩ := Option.isSome_iff_exists.1 hvalid
    exact ⟨eq_ok_of_toOption hcoerce, c, eq_ok_of_toOption hc⟩
  · rintro ⟨hcoerce, c, hc⟩
    rw [hcoerce]
    refine Option.filter_eq_some_iff.2 ⟨rfl, ?_⟩
    rw [hc]
    rfl

theorem exists_name_of_coerce (h : coerce key raw = .ok value) : ∃ s : Setting, s.name = key := by
  cases hkey : Setting.ofName? key with
  | some s => exact ⟨s, Setting.name_of_ofName? hkey⟩
  | none =>
    rw [coerce, hkey] at h
    cases h

theorem isSome_ofName?_of_coerce (h : coerce key raw = .ok value) : (Setting.ofName? key).isSome := by
  obtain ⟨s, rfl⟩ := exists_name_of_coerce h
  rw [Setting.ofName?_name]
  rfl

theorem accepted_append (calls more : List (String × String)) :
    accepted R (calls ++ more) = accepted R calls ++ accepted R more :=
  List.filterMap_append

theorem accepted_singleton (call : String × String) :
    accepted R [call] = ((acceptedValue R call.1 call.2).map (call.1, ·)).toList := by
  cases h : acceptedValue R call.1 call.2 <;> simp [accepted, h]

end Calls

def documentOf (given : Layer R) : Document R := .table [("discovery", .table given)]

/-- Values such that each document that is written while they are saved one after another is read as it is. -/
def AllRoundTrip (given : Layer R) : Prop :=
  ∀ start, start <+: given → start ≠ [] → Toml.RoundTrips (documentOf (putAll [] start))

theorem AllRoundTrip.start {start : Layer R} (h : AllRoundTrip given) (hstart : start <+: given) :
    AllRoundTrip start :=
  fun _ hfirst => h _ (hfirst.trans hstart)

structure Holds (t : FileTree) (home : String) (given : Layer R) : Prop where
  hasRoom : t.HasRoomFor (userFile home)
  nodup_keys : (given.map Prod.fst).Nodup
  isValid : ∃ c, ofLayer given = .ok c
  exists_entries : ∃ entries, documentIn t (userFile home) = (.ok (.table entries), []) ∧
    sectionOf entries = .table given ∧ ∀ d : Document R, put "discovery" d entries = [("discovery", d)]

namespace Holds

theorem of_absent (habsent : t.find? (userFile home) = none) (hroom : t.HasRoomFor (userFile home))
    (hdefault : ofLayer [] = .ok c) : Holds t home ([] : Layer R) where
  hasRoom := hroom
  nodup_keys := List.nodup_nil
  isValid := ⟨c, hdefault⟩
  exists_entries := by
    refine ⟨[], ?_, rfl, fun d => rfl⟩
    rw [documentIn, habsent]
    rfl

variable (h : Holds t home given)

include h

theorem fst_load (hc : ofLayer given = .ok c) : (load t home none []).1 = .ok c := by
  obtain ⟨entries, hdocument, hsection, -⟩ := h.exists_entries
  rw [Settings.fst_load, fst_layerOf hdocument, hsection, taken_table (known_of_ofLayer hc), ok_bind,
    putAll_nil h.nodup_keys, hc]

theorem exists_ofLayer_put_iff (hdefault : ofLayer ([] : Layer R) = .ok c) (hcoerce : coerce key raw = .ok value) :
    (∃ c', ofLayer (put key value given) = .ok c') ↔ acceptedValue R key raw = some value := by
  obtain ⟨s, rfl⟩ := exists_name_of_coerce hcoerce
  obtain ⟨c', hc'⟩ := h.isValid
  have halone : (∃ c, ofLayer [(s.name, value)] = .ok c) ↔ s.Admits value := Settings.exists_ofLayer_put_iff hdefault
  rw [acceptedValue_eq_some_iff, Settings.exists_ofLayer_put_iff hc', ← halone]
  exact (and_iff_right hcoerce).symm

theorem change_of_rejected (hdefault : ofLayer ([] : Layer R) = .ok c) (hrejected : acceptedValue R key raw = none) :
    ∃ fault, change R t home key raw = (t, .error fault) := by
  cases hcoerce : (coerce key raw : Except Fault (Document R)) with
  | error fault =>
    refine ⟨fault, ?_⟩
    rw [change, hcoerce]
  | ok value =>
    obtain ⟨entries, hdocument, hsection, -⟩ := h.exists_entries
    have hentries := sectionEntries_of_table hsection
    cases hinvalid : ofLayer (put key value given) with
    | ok c' =>
      rw [(h.exists_ofLayer_put_iff hdefault hcoerce).1 ⟨c', hinvalid⟩] at hrejected
      cases hrejected
    | error fault =>
      refine ⟨fault, ?_⟩
      rw [change, hcoerce]
      dsimp only
      rw [attempt_of_invalid (isSome_ofName?_of_coerce hcoerce) hdocument hentries hinvalid]
      rfl

theorem change_of_accepted (hdefault : ofLayer ([] : Layer R) = .ok c) (haccepted : acceptedValue R key raw = some value)
    (hround : Toml.RoundTrips (documentOf (put key value given))) :
    ∃ tree, change R t home key raw = (tree, .ok (value, ⟨tree, true, []⟩)) ∧ Holds tree home (put key value given) := by
  have hcoerce := (acceptedValue_eq_some_iff.1 haccepted).1
  obtain ⟨entries, hdocument, hsection, hput⟩ := h.exists_entries
  have hentries := sectionEntries_of_table hsection
  have hsaved : saved entries given key value = documentOf (put key value given) := by rw [saved, hput, documentOf]
  obtain ⟨c', hvalid⟩ := (h.exists_ofLayer_put_iff hdefault hcoerce).2 haccepted
  obtain ⟨tree, hattempt, hdocument', hroom, -⟩ :=
    exists_attempt_eq (isSome_ofName?_of_coerce hcoerce) hdocument hentries hvalid h.hasRoom (hsaved ▸ hround)
  refine ⟨tree, ?_, hroom, nodup_keys_put h.nodup_keys, ⟨c', hvalid⟩, ?_⟩
  · rw [change, hcoerce]
    dsimp only
    rw [hattempt]
    rfl
  · rw [hsaved] at hdocument'
    exact ⟨_, hdocument', rfl, fun d => rfl⟩

end Holds

section Runs

omit [Scalar R] in
theorem putAll_concat (entries more : Layer R) (e : String × Document R) :
    putAll entries (more ++ [e]) = put e.1 e.2 (putAll entries more) := by
  rw [putAll, List.foldl_append]
  rfl

theorem changeAll_concat (t : FileTree) (home : String) (calls : List (String × String)) (call : String × String) :
    changeAll R t home (calls ++ [call]) = changeNext R home (changeAll R t home calls) call := by
  rw [changeAll, List.foldl_append]
  rfl

theorem holds_changeAll {calls : List (String × String)} (hdefault : ofLayer ([] : Layer R) = .ok c)
    (hstart : Holds t home ([] : Layer R)) (hround : AllRoundTrip (accepted R calls)) :
    (changeAll R t home calls).2 = accepted R calls ∧
      Holds (changeAll R t home calls).1 home (putAll [] (accepted R calls)) := by
  -- A call is made on the files that all calls before it leave, so the last call is split off and not the first.
  induction calls using List.reverseRecOn with
  | nil => exact ⟨rfl, hstart⟩
  | append_singleton calls call ih =>
    rw [accepted_append, accepted_singleton] at hround ⊢
    obtain ⟨hvalues, hholds⟩ := ih (hround.start (List.prefix_append _ _))
    rw [changeAll_concat]
    cases hcall : acceptedValue R call.1 call.2 with
    | none =>
      obtain ⟨fault, hchange⟩ := hholds.change_of_rejected hdefault hcall
      rw [Option.map_none, Option.toList_none, List.append_nil, changeNext, hchange]
      exact ⟨hvalues, hholds⟩
    | some value =>
      rw [hcall, Option.map_some, Option.toList_some] at hround
      have hwritten := hround _ List.prefix_rfl (List.concat_ne_nil _ _)
      rw [putAll_concat] at hwritten
      obtain ⟨tree, hchange, hholds'⟩ := hholds.change_of_accepted hdefault hcall hwritten
      rw [Option.map_some, Option.toList_some, changeNext, hchange, putAll_concat]
      exact ⟨congrArg (· ++ [(call.1, value)]) hvalues, hholds'⟩

end Runs

theorem exists_ofLayer_nil : ∃ c : Settings Float, ofLayer [] = .ok c := by
  have hvalid : (ofLayer ([] : Layer Float)).toOption.isSome := by decide +kernel
  obtain ⟨c, hc⟩ := Option.isSome_iff_exists.1 hvalid
  exact ⟨c, eq_ok_of_toOption hc⟩

/-- If the documents that are written are read as they are, a sequence of changes starts without a file of the user, and
there is room for it, then each change is refused and leaves everything as it was, or its value is saved. The settings that
are loaded after it are made of the last value that was saved for each of them. -/
theorem changeAll_then_load (t : FileTree) (home : String) (calls : List (String × String))
    (habsent : t.find? (userFile home) = none) (hroom : t.HasRoomFor (userFile home))
    (hround : AllRoundTrip (accepted Float calls)) :
    (∀ before key raw after, calls = before ++ (key, raw) :: after →
      (acceptedValue Float key raw = none ∧ ∃ fault, change Float (changeAll Float t home before).1 home key raw =
        ((changeAll Float t home before).1, .error fault)) ∨
      ∃ value tree, acceptedValue Float key raw = some value ∧
        change Float (changeAll Float t home before).1 home key raw = (tree, .ok (value, ⟨tree, true, []⟩))) ∧
    (changeAll Float t home calls).2 = accepted Float calls ∧
    ∃ given c, (given.map Prod.fst).Nodup ∧
      (∀ key, find? key given = find? key (changeAll Float t home calls).2.reverse) ∧
      ofLayer given = .ok c ∧ (load (changeAll Float t home calls).1 home none []).1 = .ok c := by
  obtain ⟨c₀, hdefault⟩ := exists_ofLayer_nil
  have hstart : Holds t home ([] : Layer Float) := .of_absent habsent hroom hdefault
  obtain ⟨hvalues, hholds⟩ := holds_changeAll hdefault hstart hround
  refine ⟨fun before key raw after hcalls => ?_, hvalues, ?_⟩
  · -- The calls up to this one are a run of their own, and what they write is among what all of them write.
    rw [hcalls, ← List.singleton_append, ← List.append_assoc, accepted_append, accepted_append] at hround
    have hround' := hround.start (List.prefix_append _ _)
    obtain ⟨-, hholds⟩ := holds_changeAll hdefault hstart (hround'.start (List.prefix_append _ _))
    cases hcall : acceptedValue Float key raw with
    | none => exact Or.inl ⟨rfl, hholds.change_of_rejected hdefault hcall⟩
    | some value =>
      rw [accepted_singleton, hcall, Option.map_some, Option.toList_some] at hround'
      have hwritten := hround' _ List.prefix_rfl (List.concat_ne_nil _ _)
      rw [putAll_concat] at hwritten
      obtain ⟨tree, hchange, -⟩ := hholds.change_of_accepted hdefault hcall hwritten
      exact Or.inr ⟨value, tree, rfl, hchange⟩
  · obtain ⟨c, hc⟩ := hholds.isValid
    refine ⟨_, c, hholds.nodup_keys, fun key => ?_, hc, hholds.fst_load hc⟩
    rw [hvalues, find?_putAll, find?, Option.or_none]

section Files

def someCalls : List (String × String) := [
  ("max_files", "40"), ("min_confidence", "1.5"), ("sampling", "stride"), ("max_files", "many"), ("max_files", "25")]

theorem accepted_someCalls : accepted Float someCalls = [
    ("max_files", .int 40), ("sampling", .text "stride"), ("max_files", .int 25)] := by
  decide +kernel

theorem roundTrips_of_toOption {d : Document Float}
    (h : ((Toml.write d >>= fun text => FileTree.textOf text.toUTF8.toList >>= Toml.read).toOption = some d)) :
    Toml.RoundTrips d := by
  obtain ⟨text, hwrite, hread⟩ := exists_of_bind_eq_ok (eq_ok_of_toOption h)
  exact ⟨text, hwrite, hread⟩

theorem allRoundTrip_someCalls : AllRoundTrip (accepted Float someCalls) := by
  intro given hstarts hne
  rw [accepted_someCalls, ← List.mem_inits] at hstarts
  simp only [List.inits, List.map_cons, List.map_nil, List.mem_cons, List.not_mem_nil, or_false, hne, false_or] at hstarts
  obtain rfl | rfl | rfl := hstarts
  · exact roundTrips_of_toOption (by decide +kernel)
  · exact roundTrips_of_toOption (by decide +kernel)
  · exact roundTrips_of_toOption (by decide +kernel)

theorem hasRoomFor_nil : (⟨[]⟩ : FileTree).HasRoomFor (userFile "home") := by
  have hplace : FileTree.resolve (userFile "home") = ["home", "config.toml"] := by decide +kernel
  refine ⟨by decide +kernel, ?_, ?_⟩
  · intro n hn bytes hfile
    rw [hplace] at hfile
    by_cases hroot : (["home", "config.toml"].take n).isEmpty = true
    · rw [FileTree.at?, if_pos hroot] at hfile
      cases hfile
    · rw [FileTree.at?, if_neg hroot] at hfile
      cases hfile
  · rw [hplace]
    nofun

theorem changeAll_then_load_someCalls :
    (⟨[]⟩ : FileTree).find? (userFile "home") = none ∧ (⟨[]⟩ : FileTree).HasRoomFor (userFile "home") ∧
      AllRoundTrip (accepted Float someCalls) ∧ ∃ c : Settings Float, (load (changeAll Float ⟨[]⟩ "home" someCalls).1 "home" none []).1 = .ok c ∧
        c.value .maxFiles = .int 25 ∧ c.value .sampling = .text "stride" ∧ c.value .workers = .int 4 := by
  have habsent : (⟨[]⟩ : FileTree).find? (userFile "home") = none := by
    have hnone : ((⟨[]⟩ : FileTree).find? (userFile "home")).isNone := by decide +kernel
    exact Option.isNone_iff_eq_none.1 hnone
  obtain ⟨-, hvalues, given, c, -, hgiven, hc, hload⟩ :=
    changeAll_then_load ⟨[]⟩ "home" someCalls habsent hasRoomFor_nil allRoundTrip_someCalls
  obtain ⟨-, -, rfl⟩ := ofLayer_eq_ok_iff.1 hc
  have hvalue (s : Setting) : (assemble given).settled.value s =
      s.settled ((find? s.name (accepted Float someCalls).reverse).getD s.default) := by
    rw [← hvalues, ← hgiven]
    rfl
  refine ⟨habsent, hasRoomFor_nil, allRoundTrip_someCalls, _, hload, ?_, ?_, ?_⟩
  · rw [hvalue, accepted_someCalls]
    rfl
  · rw [hvalue, accepted_someCalls]
    rfl
  · rw [hvalue, accepted_someCalls]
    rfl

end Files

end Demarcation.Settings
