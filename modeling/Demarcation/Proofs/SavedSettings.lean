import Demarcation.Proofs.Paths
import Demarcation.Proofs.SettingLayers
import Demarcation.Proofs.WrittenFiles

namespace Demarcation

open Document FileTree

variable {R : Type} [Scalar R]

def Document.Toml.RoundTrips (d : Document R) : Prop :=
  ∃ text, Toml.write d = .ok text ∧ textOf text.toUTF8.toList >>= Toml.read = .ok d

namespace Settings

variable {t : FileTree} {home key path : String} {value d : Document R} {c c' : Settings R} {given : Layer R}
  {entries : List (String × Document R)} {warnings : List Warning} {fault : Fault}

theorem resolve_userFile (home : String) : resolve (userFile home) = resolve home ++ ["config.toml"] := by
  have hcomponents : Text.components (home ++ "/config.toml") = Text.components home ++ ["config.toml"] := by
    have happend := Text.components_append_slash home "config.toml"
    rwa [String.append_assoc] at happend
  rw [userFile, resolve_normalPath, resolve, hcomponents, List.foldl_append]
  rfl

section Loading

def sectionOf (entries : List (String × Document R)) : Document R := (find? "discovery" entries).getD (.table [])

def taken : Document R → Layer R
  | .table given => given.filter fun e => (Setting.ofName? e.1).isSome
  | _ => []

omit [Scalar R] in
theorem fst_section? (path : String) (entries : List (String × Document R)) :
    (section? path (.table entries)).1 = .ok (taken (sectionOf entries)) := by
  have hsection : (Document.table entries).getD "discovery" (.table []) = .ok (sectionOf entries) := rfl
  rw [section?, hsection]
  cases sectionOf entries <;> rfl

theorem fst_load (t : FileTree) (home : String) :
    (load t home none ([] : Layer R)).1 = (layerOf t (userFile home)).1 >>= fun user => ofLayer (putAll [] user) := by
  unfold load
  cases (layerOf t (userFile home) : Except Fault (Layer R) × List Warning) with
  | mk user warnings =>
    cases user with
    | error fault => rfl
    | ok user => exact bind_pure (ofLayer (putAll [] user))

theorem fst_layerOf (h : documentIn t path = (.ok (.table entries), warnings)) :
    (layerOf t path).1 = .ok (taken (sectionOf entries)) := by
  rw [layerOf, h]
  exact fst_section? path entries

theorem distinct_documentIn (h : documentIn t path = (.ok d, warnings)) : d.Distinct := by
  unfold documentIn at h
  split at h
  · cases h
    exact distinct_empty
  · split at h
    · next hread =>
      cases h
      obtain ⟨text, -, hread⟩ := exists_of_bind_eq_ok hread
      exact Toml.distinct_read hread
    · cases h
      exact distinct_empty
    · cases h
      exact distinct_empty
    · cases h

omit [Scalar R] in
theorem distinct_sectionOf (h : (Document.table entries).Distinct) : (sectionOf entries).Distinct := by
  unfold sectionOf
  cases hsection : find? "discovery" entries with
  | none => exact distinct_empty
  | some d => exact h.of_find? hsection

theorem exists_document_of_load (h : load t home none [] = (.ok c, warnings)) :
    ∃ entries more, documentIn t (userFile home) = (.ok (.table entries), more) ∧
      ofLayer (putAll [] (taken (sectionOf entries))) = .ok c := by
  have hload : (load t home none ([] : Layer R)).1 = .ok c := congrArg Prod.fst h
  rw [fst_load] at hload
  obtain ⟨user, huser, hload⟩ := exists_of_bind_eq_ok hload
  cases hdocument : (documentIn t (userFile home) : Except Fault (Document R) × List Warning) with
  | mk result more =>
    cases result with
    | error fault =>
      rw [layerOf, hdocument] at huser
      cases huser
    | ok d =>
      cases d with
      | table entries =>
        rw [fst_layerOf hdocument] at huser
        cases huser
        exact ⟨entries, more, rfl, hload⟩
      | _ =>
        rw [layerOf, hdocument] at huser
        cases huser

end Loading

section Saving

omit [Scalar R] in
theorem sectionEntries_of_table (h : d = .table given) : sectionEntries d = .ok given := by
  rw [h]
  rfl

omit [Scalar R] in
theorem nodup_keys_of_sectionEntries (hd : d.Distinct) (h : sectionEntries d = .ok given) : (given.map Prod.fst).Nodup := by
  cases d with
  | table given =>
    cases h
    exact hd.nodup_keys
  | _ =>
    obtain ⟨items, -, h⟩ := exists_of_bind_eq_ok h
    obtain ⟨pairs, -, h⟩ := exists_of_bind_eq_ok h
    obtain ⟨entries, -, h⟩ := exists_of_bind_eq_ok h
    cases h
    exact nodup_keys_putAll List.nodup_nil

omit [Scalar R] in
theorem taken_table (h : Known given) : taken (.table given) = given := List.filter_eq_self.2 h

def saved (entries : List (String × Document R)) (given : Layer R) (key : String) (value : Document R) : Document R :=
  .table (put "discovery" (.table (put key value given)) entries)

theorem documentIn_written {bytes : List UInt8} (hfile : t.find? path = some (.file bytes))
    (hread : textOf bytes >>= Toml.read = .ok d) : documentIn t path = (.ok d, []) := by
  have hbytes : t.readBytes path = .ok bytes := by simp only [readBytes, hfile]
  have htext : t.readText path = textOf bytes := by rw [readText, hbytes, ok_bind]
  simp only [documentIn, hfile, htext, hread]
  rfl

theorem exists_store_eq {text : String} (warnings : List Warning) (hroom : t.HasRoomFor (userFile home))
    (hwrite : Toml.write d = .ok text) :
    ∃ tree, store t home d warnings = (tree, .ok ⟨tree, true, warnings⟩) ∧
      tree.find? (userFile home) = some (.file text.toUTF8.toList) ∧ tree.HasRoomFor (userFile home) ∧
      ∀ other, other ≠ resolve (userFile home) → ∀ bytes,
        tree.at? other = some (.file bytes) ↔ t.at? other = some (.file bytes) := by
  obtain ⟨t₁, ht₁, hroom₁, hfiles₁⟩ := hroom.exists_makeDirectory_eq
  obtain ⟨t₂, ht₂, hfile, hroom₂, hfiles₂⟩ := exists_write_eq hroom₁ text.toUTF8.toList
  rw [resolve_userFile, List.dropLast_concat] at ht₁
  refine ⟨t₂, ?_, hfile, hroom₂, fun other hother bytes => ?_⟩
  · simp only [store, ht₁, hwrite, ht₂]
    rfl
  · rw [hfiles₂ other hother bytes, hfiles₁]

section Steps

variable (hkey : (Setting.ofName? key).isSome)
  (hdocument : documentIn t (userFile home) = (.ok (.table entries), warnings))

include hkey hdocument

theorem prepare_eq :
    prepare t home key value =
      sectionEntries (sectionOf entries) >>= fun given =>
        ofLayer (put key value given) >>= fun _ => .ok (saved entries given key value, warnings) := by
  have hsection : (Document.table entries).getD "discovery" (.table []) = .ok (sectionOf entries) := rfl
  have hknown : ¬ (Setting.ofName? key).isNone := by
    rw [Option.isNone_eq_false_iff.2 hkey]
    exact Bool.false_ne_true
  simp only [prepare, saved, if_neg hknown, hdocument, hsection, ok_bind]
  rfl

theorem attempt_of_badSection (hentries : sectionEntries (sectionOf entries) = .error fault) :
    attempt t home key value = (t, .error fault) := by
  rw [attempt, prepare_eq hkey hdocument, hentries, error_bind]

theorem attempt_of_invalid (hentries : sectionEntries (sectionOf entries) = .ok given)
    (hinvalid : ofLayer (put key value given) = .error fault) : attempt t home key value = (t, .error fault) := by
  rw [attempt, prepare_eq hkey hdocument, hentries, ok_bind, hinvalid, error_bind]

theorem exists_attempt_eq (hentries : sectionEntries (sectionOf entries) = .ok given)
    (hvalid : ofLayer (put key value given) = .ok c) (hroom : t.HasRoomFor (userFile home))
    (hround : Toml.RoundTrips (saved entries given key value)) :
    ∃ tree, attempt t home key value = (tree, .ok ⟨tree, true, warnings⟩) ∧
      documentIn tree (userFile home) = (.ok (saved entries given key value), []) ∧ tree.HasRoomFor (userFile home) ∧
      ∀ other, other ≠ resolve (userFile home) → ∀ bytes,
        tree.at? other = some (.file bytes) ↔ t.at? other = some (.file bytes) := by
  obtain ⟨text, hwrite, hread⟩ := hround
  obtain ⟨tree, hstore, hfile, hroom', hfiles⟩ := exists_store_eq warnings hroom hwrite
  refine ⟨tree, ?_, documentIn_written hfile hread, hroom', hfiles⟩
  rw [attempt, prepare_eq hkey hdocument, hentries, ok_bind, hvalid, ok_bind]
  exact hstore

end Steps

theorem fst_load_saved (hkeys : (given.map Prod.fst).Nodup)
    (hdocument : documentIn t (userFile home) = (.ok (saved entries given key value), warnings))
    (hvalid : ofLayer (put key value given) = .ok c) : (load t home none []).1 = .ok c := by
  have hsection : sectionOf (put "discovery" (.table (put key value given)) entries) = .table (put key value given) := by
    rw [sectionOf, find?_put_self]
    rfl
  rw [fst_load, fst_layerOf hdocument, hsection, taken_table (known_of_ofLayer hvalid), ok_bind,
    putAll_nil (nodup_keys_put hkeys), hvalid]

end Saving

/-- The loader and the saver take the same entries from a section: those of a table in which all settings are known, or none
from an empty list or text. -/
inductive TakenAlike : Document R → Layer R → Prop where
  | table {given : Layer R} (h : Known given) : TakenAlike (.table given) given
  | noItems : TakenAlike (.list []) []
  | noText : TakenAlike (.text "") []

omit [Scalar R] in
theorem TakenAlike.taken_eq (h : TakenAlike d given) : taken d = given := by
  cases h with
  | table hknown => exact taken_table hknown
  | noItems => rfl
  | noText => rfl

omit [Scalar R] in
theorem TakenAlike.sectionEntries_eq (h : TakenAlike d given) : sectionEntries d = .ok given := by
  cases h with
  | table hknown => rfl
  | noItems => rfl
  | noText => rfl

theorem ofLayer_put (hgiven : ofLayer given = .ok c) (hvalue : value ≠ .null)
    (hoverride : c.override [(key, value)] = .ok c') : ofLayer (put key value given) = .ok c' := by
  obtain ⟨s, rfl⟩ := exists_name_of_override hvalue hoverride
  have hknown := known_of_ofLayer hgiven
  rw [ofLayer_of_known hknown] at hgiven
  rw [ofLayer_of_known (known_put hknown), assemble_put, ← validate_withValue hgiven, ← override_singleton hvalue,
    hoverride]

/-- If the settings that are loaded admit a value, it is saved and loaded with all else as before, provided that loader and
saver take the same from the section. An unknown setting in the section, or a section that has no entries to take, makes
saving fail. -/
theorem save_then_load (hload : load t home none [] = (.ok c, warnings)) (hvalue : value ≠ .null)
    (hoverride : c.override [(key, value)] = .ok c') (hroom : t.HasRoomFor (userFile home)) :
    ∃ entries more, documentIn t (userFile home) = (.ok (.table entries), more) ∧
      (∀ given, TakenAlike (sectionOf entries) given → Toml.RoundTrips (saved entries given key value) →
        ∃ tree entries' given', save t home key value = .ok ⟨tree, true, more⟩ ∧
          documentIn tree (userFile home) = (.ok (.table entries'), []) ∧
          (∀ other, other ≠ "discovery" → find? other entries' = find? other entries) ∧
          find? "discovery" entries' = some (.table given') ∧
          (∀ other, other ≠ key → find? other given' = find? other given) ∧ find? key given' = some value ∧
          (∀ other, other ≠ resolve (userFile home) → ∀ bytes,
            tree.at? other = some (.file bytes) ↔ t.at? other = some (.file bytes)) ∧
          (load tree home none []).1 = .ok c') ∧
      (∀ given, sectionOf entries = .table given → ¬ Known given → save t home key value = .error .wrongType) ∧
      (∀ fault, sectionEntries (sectionOf entries) = .error fault → save t home key value = .error fault) := by
  obtain ⟨entries, more, hdocument, htaken⟩ := exists_document_of_load hload
  obtain ⟨s, hs⟩ := exists_name_of_override hvalue hoverride
  have hkey : (Setting.ofName? key).isSome := by
    rw [← hs, Setting.ofName?_name]
    rfl
  have hdistinct : (sectionOf entries).Distinct := distinct_sectionOf (distinct_documentIn hdocument)
  refine ⟨entries, more, hdocument, fun given halike hround => ?_, fun given hsection hunknown => ?_, fun fault => ?_⟩
  · have hentries := halike.sectionEntries_eq
    -- Without repeated keys the layer that is loaded is the section as the saver sees it.
    have hkeys := nodup_keys_of_sectionEntries hdistinct hentries
    rw [halike.taken_eq, putAll_nil hkeys] at htaken
    have hvalid := ofLayer_put htaken hvalue hoverride
    obtain ⟨tree, hattempt, hdocument', -, hfiles⟩ := exists_attempt_eq hkey hdocument hentries hvalid hroom hround
    exact ⟨tree, _, _, congrArg Prod.snd hattempt, hdocument',
      fun other hother => find?_put_of_ne hother _ _, find?_put_self _ _ _,
      fun other hother => find?_put_of_ne hother _ _, find?_put_self _ _ _,
      hfiles, fst_load_saved hkeys hdocument' hvalid⟩
  · have hentries := sectionEntries_of_table hsection
    exact congrArg Prod.snd (attempt_of_invalid hkey hdocument hentries (ofLayer_of_not_known (mt known_of_put hunknown)))
  · exact fun h => congrArg Prod.snd (attempt_of_badSection hkey hdocument h)

section Files

def homeWith (text : String) : FileTree :=
  ⟨[(["home"], .directory), (["home", "config.toml"], .file text.toUTF8.toList)]⟩

theorem hasRoomFor_homeWith (text : String) : (homeWith text).HasRoomFor (userFile "home") := by
  have hplace : resolve (userFile "home") = ["home", "config.toml"] := by decide +kernel
  refine ⟨by decide +kernel, ?_, ?_⟩
  · rw [hplace]
    intro n hn bytes
    obtain rfl | rfl : n = 0 ∨ n = 1 := by
      rw [List.length_cons, List.length_singleton] at hn
      omega
    · nofun
    · nofun
  · rw [hplace]
    nofun

def colourText : String := "[discovery]\ncolour = 1\n"

theorem save_colourText :
    (∃ c c' : Settings Rat, (load (homeWith colourText) "home" none []).1 = .ok c ∧
      c.override [("max_files", .int 5)] = .ok c') ∧
    (homeWith colourText).HasRoomFor (userFile "home") ∧
    save (homeWith colourText) "home" "max_files" (.int 5 : Document Rat) = .error .wrongType := by
  refine ⟨?_, hasRoomFor_homeWith colourText, ?_⟩
  · have hvalid : ((load (homeWith colourText) "home" none ([] : Layer Rat)).1 >>= fun c =>
        c.override [("max_files", .int 5)]).toOption.isSome := by decide +kernel
    obtain ⟨c', hc'⟩ := Option.isSome_iff_exists.1 hvalid
    obtain ⟨c, hload, hoverride⟩ := exists_of_bind_eq_ok (eq_ok_of_toOption hc')
    exact ⟨c, c', hload, hoverride⟩
  · have hfault : (match save (homeWith colourText) "home" "max_files" (.int 5 : Document Rat) with
        | .ok _ => none
        | .error fault => some fault) = some .wrongType := by decide +kernel
    cases hsave : save (homeWith colourText) "home" "max_files" (.int 5 : Document Rat) with
    | ok saved =>
      rw [hsave] at hfault
      cases hfault
    | error fault =>
      rw [hsave] at hfault
      rw [Option.some_inj.1 hfault]

def themeText : String := "[ui]\ntheme = \"dark\"\n"

def themeEntries : List (String × Document Rat) := [("ui", .table [("theme", .text "dark")])]

theorem documentIn_themeText :
    documentIn (homeWith themeText) (userFile "home") = (.ok (.table themeEntries), []) := by
  have hdocument : (documentIn (homeWith themeText) (userFile "home")).1.toOption = some (.table themeEntries) := by
    decide +kernel
  have hquiet : (documentIn (homeWith themeText) (userFile "home") : Except Fault (Document Rat) × List Warning).2 = [] := by
    decide +kernel
  exact Prod.ext (eq_ok_of_toOption hdocument) hquiet

theorem roundTrips_themeText : Toml.RoundTrips (saved themeEntries [] "max_files" (.int 25)) := by
  have hwrite : (Toml.write (saved themeEntries [] "max_files" (.int 25))).toOption =
      some "[ui]\ntheme = \"dark\"\n\n[discovery]\nmax_files = 25\n" := by decide +kernel
  have hread : (textOf "[ui]\ntheme = \"dark\"\n\n[discovery]\nmax_files = 25\n".toUTF8.toList >>= Toml.read).toOption =
      some (saved themeEntries [] "max_files" (.int 25)) := by decide +kernel
  exact ⟨_, eq_ok_of_toOption hwrite, eq_ok_of_toOption hread⟩

theorem save_then_load_themeText :
    ∃ (c c' : Settings Rat) (tree : FileTree), load (homeWith themeText) "home" none [] = (.ok c, []) ∧
      c.override [("max_files", .int 25)] = .ok c' ∧ (homeWith themeText).HasRoomFor (userFile "home") ∧
      save (homeWith themeText) "home" "max_files" (.int 25 : Document Rat) = .ok ⟨tree, true, []⟩ ∧
      (load tree "home" none []).1 = .ok c' := by
  have hvalid : ((load (homeWith themeText) "home" none ([] : Layer Rat)).1 >>= fun c =>
      c.override [("max_files", .int 25)]).toOption.isSome := by decide +kernel
  obtain ⟨c', hc'⟩ := Option.isSome_iff_exists.1 hvalid
  obtain ⟨c, hload, hoverride⟩ := exists_of_bind_eq_ok (eq_ok_of_toOption hc')
  have hquiet : (load (homeWith themeText) "home" none ([] : Layer Rat)).2 = [] := by decide +kernel
  have hboth : load (homeWith themeText) "home" none ([] : Layer Rat) = (.ok c, []) := Prod.ext hload hquiet
  have hroom := hasRoomFor_homeWith themeText
  obtain ⟨entries, more, hdocument, hsaves, -, -⟩ := save_then_load hboth (by nofun) hoverride hroom
  rw [documentIn_themeText] at hdocument
  cases hdocument
  obtain ⟨tree, -, -, hsave, -, -, -, -, -, -, hloaded⟩ := hsaves [] (.table (by nofun)) roundTrips_themeText
  exact ⟨c, c', tree, hboth, hoverride, hroom, hsave, hloaded⟩

end Files

end Settings

end Demarcation
