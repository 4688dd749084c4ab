import Mathlib.Data.List.Forall2
import Demarcation.Proofs.MalformedText

namespace Demarcation

open Document FileTree

section Lists

variable {α β : Type} {f : α → Except Fault β} {xs : List α}

theorem mapM_eq_ok_iff {ys : List β} : xs.mapM f = .ok ys ↔ List.Forall₂ (fun x y => f x = .ok y) xs ys := by
  induction xs generalizing ys with
  | nil =>
    rw [List.forall₂_nil_left_iff]
    exact ⟨fun h => (Except.ok.inj h).symm, fun h => congrArg Except.ok h.symm⟩
  | cons x xs ih =>
    rw [List.mapM_cons, List.forall₂_cons_left_iff]
    constructor
    · intro h
      obtain ⟨y, hy, h⟩ := exists_of_bind_eq_ok h
      obtain ⟨ys, hys, h⟩ := exists_of_bind_eq_ok h
      exact ⟨y, ys, hy, ih.1 hys, (Except.ok.inj h).symm⟩
    · rintro ⟨y, ys, hy, hys, rfl⟩
      rw [hy, ok_bind, ih.2 hys]
      rfl

theorem exists_first_of_mapM_eq_error {fault : Fault} (h : xs.mapM f = .error fault) :
    ∃ before x after, xs = before ++ x :: after ∧ (∀ y ∈ before, ∃ b, f y = .ok b) ∧ f x = .error fault := by
  induction xs with
  | nil => cases h
  | cons x xs ih =>
    rw [List.mapM_cons] at h
    cases hx : f x with
    | error fault' =>
      rw [hx, error_bind] at h
      cases h
      exact ⟨[], x, xs, rfl, nofun, hx⟩
    | ok b =>
      rw [hx, ok_bind] at h
      cases hxs : xs.mapM f with
      | ok bs =>
        rw [hxs] at h
        cases h
      | error fault' =>
        rw [hxs, error_bind] at h
        cases h
        obtain ⟨before, y, after, hsplit, hbefore, hy⟩ := ih hxs
        refine ⟨x :: before, y, after, congrArg (x :: ·) hsplit, ?_, hy⟩
        exact List.forall_mem_cons.2 ⟨⟨b, hx⟩, hbefore⟩

end Lists

namespace UserBoundary

variable {R : Type} {file name : String} {entries : List (String × Document R)} {d : Document R} {b : UserBoundary}
  {bs : List UserBoundary} {fault : Fault}

inductive Declares : String × Document R → UserBoundary → Prop where
  | described {name description : String} {entries : List (String × Document R)} {paths : List String}
      (hpaths : find? "paths" entries = some (.texts paths)) (hne : paths ≠ [])
      (hdescription : find? "description" entries = some (.text description)) :
      Declares (name, .table entries) { name, description, paths }
  | plain {name : String} {entries : List (String × Document R)} {paths : List String}
      (hpaths : find? "paths" entries = some (.texts paths)) (hne : paths ≠ [])
      (hdescription : find? "description" entries = none) : Declares (name, .table entries) { name, paths }

def HasModules (d : Document R) (modules : List (String × Document R)) : Prop :=
  ∃ entries, d = .table entries ∧ find? "modules" entries = some (.table modules) ∧ modules ≠ []

def Lists (d : Document R) (bs : List UserBoundary) : Prop :=
  ∃ modules, HasModules d modules ∧ List.Forall₂ Declares modules bs

inductive Complaint (file : String) : String × Document R → Fault → Prop where
  | notTable {name : String} {d : Document R} (h : ∀ entries, d ≠ .table entries) :
      Complaint file (name, d) (.moduleNotTable file name)
  | withoutPaths {name : String} {entries : List (String × Document R)}
      (h : ∀ paths, find? "paths" entries = some (.texts paths) → paths = []) :
      Complaint file (name, .table entries) (.moduleWithoutPaths file name)
  | descriptionNotText {name : String} {entries : List (String × Document R)} {paths : List String} {d : Document R}
      (hpaths : find? "paths" entries = some (.texts paths)) (hne : paths ≠ [])
      (hdescription : find? "description" entries = some d) (h : ∀ s, d ≠ .text s) :
      Complaint file (name, .table entries) (.moduleDescriptionNotText file name)

inductive Refused (file : String) (d : Document R) : Fault → Prop where
  | withoutModules (h : ∀ modules, ¬ HasModules d modules) : Refused file d (.boundaryFileWithoutModules file)
  | complaint {before after : List (String × Document R)} {e : String × Document R} {fault : Fault}
      (hmodules : HasModules d (before ++ e :: after)) (hbefore : ∀ e ∈ before, ∃ b, Declares e b)
      (hcomplaint : Complaint file e fault) : Refused file d fault

section Shape

theorem mapM_asText_eq_some_iff {items : List (Document R)} {names : List String} :
    items.mapM (fun d => d.asText.toOption) = some names ↔ items = names.map .text := by
  induction items generalizing names with
  | nil =>
    rw [List.mapM_nil, eq_comm (b := names.map _), List.map_eq_nil_iff]
    exact Option.some_inj.trans eq_comm
  | cons d items ih =>
    rw [List.mapM_cons]
    cases d with
    | text s =>
      cases names with
      | nil => cases items.mapM fun d => d.asText.toOption <;> simp [asText, Except.toOption]
      | cons name names =>
        rw [List.map_cons, List.cons_eq_cons, ← ih]
        cases items.mapM fun d => d.asText.toOption <;> simp [asText, Except.toOption]
    | _ => cases names <;> simp [asText, Except.toOption]

theorem patterns?_eq_some_iff {paths : List String} :
    patterns? entries = some paths ↔ find? "paths" entries = some (.texts paths) ∧ paths ≠ [] := by
  unfold patterns?
  split
  · next d ds hpaths =>
    rw [mapM_asText_eq_some_iff, hpaths, Option.some_inj, texts, Document.list.injEq]
    refine ⟨fun h => ⟨h, ?_⟩, And.left⟩
    rintro rfl
    cases h
  · next hnone =>
    constructor
    · intro h
      cases h
    · rintro ⟨hpaths, hne⟩
      obtain ⟨path, paths, rfl⟩ := List.exists_cons_of_ne_nil hne
      exact (hnone _ _ hpaths).elim

theorem ofEntry_of_declares (h : Declares (name, d) b) : ofEntry file name d = .ok b := by
  cases h with
  | described hpaths hne hdescription =>
    simp only [ofEntry, patterns?_eq_some_iff.2 ⟨hpaths, hne⟩, hdescription, Option.getD_some]
  | plain hpaths hne hdescription =>
    simp only [ofEntry, patterns?_eq_some_iff.2 ⟨hpaths, hne⟩, hdescription, Option.getD_none]

theorem ofEntry_of_complaint (h : Complaint file (name, d) fault) : ofEntry file name d = .error fault := by
  cases h with
  | notTable h =>
    cases d with
    | table entries => exact absurd rfl (h entries)
    | _ => rfl
  | @withoutPaths _ entries h =>
    have hnone : patterns? entries = none := by
      rw [Option.eq_none_iff_forall_ne_some]
      intro paths hpaths
      obtain ⟨hpaths, hne⟩ := patterns?_eq_some_iff.1 hpaths
      exact hne (h paths hpaths)
    simp only [ofEntry, hnone]
  | descriptionNotText hpaths hne hdescription h =>
    simp only [ofEntry, patterns?_eq_some_iff.2 ⟨hpaths, hne⟩, hdescription, Option.getD_some]

theorem declares_or_complaint (file : String) (e : String × Document R) :
    (∃ b, Declares e b) ∨ ∃ fault, Complaint file e fault := by
  obtain ⟨name, d⟩ := e
  -- The cases come in the order in which an entry is checked: its type, its paths, its description.
  by_cases htable : ∃ entries, d = .table entries
  · obtain ⟨entries, rfl⟩ := htable
    by_cases hpatterns : ∃ paths, find? "paths" entries = some (.texts paths) ∧ paths ≠ []
    · obtain ⟨paths, hpaths, hne⟩ := hpatterns
      cases hdescription : find? "description" entries with
      | none => exact Or.inl ⟨_, .plain hpaths hne hdescription⟩
      | some d =>
        by_cases htext : ∃ s, d = .text s
        · obtain ⟨s, rfl⟩ := htext
          exact Or.inl ⟨_, .described hpaths hne hdescription⟩
        · exact Or.inr ⟨_, .descriptionNotText hpaths hne hdescription (not_exists.1 htext)⟩
    · refine Or.inr ⟨_, .withoutPaths fun paths hpaths => ?_⟩
      by_contra hne
      exact hpatterns ⟨paths, hpaths, hne⟩
  · exact Or.inr ⟨_, .notTable (not_exists.1 htable)⟩

theorem ofEntry_eq_ok_iff : ofEntry file name d = .ok b ↔ Declares (name, d) b := by
  refine ⟨fun h => ?_, ofEntry_of_declares⟩
  obtain ⟨b', hb'⟩ | ⟨fault, hfault⟩ := declares_or_complaint file (name, d)
  · rw [ofEntry_of_declares hb', Except.ok.injEq] at h
    exact h ▸ hb'
  · rw [ofEntry_of_complaint hfault] at h
    cases h

theorem ofEntry_eq_error_iff : ofEntry file name d = .error fault ↔ Complaint file (name, d) fault := by
  refine ⟨fun h => ?_, ofEntry_of_complaint⟩
  obtain ⟨b, hb⟩ | ⟨fault', hfault'⟩ := declares_or_complaint file (name, d)
  · rw [ofEntry_of_declares hb] at h
    cases h
  · rw [ofEntry_of_complaint hfault', Except.error.injEq] at h
    exact h ▸ hfault'

theorem ofDocument_of_hasModules {modules : List (String × Document R)} (h : HasModules d modules) :
    ofDocument file d = modules.mapM fun e => ofEntry file e.1 e.2 := by
  obtain ⟨entries, rfl, hmodules, hne⟩ := h
  obtain ⟨e, es, rfl⟩ := List.exists_cons_of_ne_nil hne
  have hvalue : (Document.table entries).getD "modules" .null = .ok (.table (e :: es)) := by
    rw [getD, hmodules, Option.getD_some]
  rw [ofDocument, hvalue]

theorem ofDocument_of_not_hasModules (h : ∀ modules, ¬ HasModules d modules) :
    ofDocument file d = .error (.boundaryFileWithoutModules file) := by
  unfold ofDocument
  split
  · next e es hvalue =>
    cases d with
    | table entries =>
      cases hmodules : find? "modules" entries with
      | none =>
        rw [getD, hmodules] at hvalue
        cases hvalue
      | some value =>
        rw [getD, hmodules, Option.getD_some, Except.ok.injEq] at hvalue
        exact absurd ⟨entries, rfl, hvalue ▸ hmodules, List.cons_ne_nil e es⟩ (h (e :: es))
    | _ => cases hvalue
  · rfl

theorem ofDocument_eq_ok_iff : ofDocument file d = .ok bs ↔ Lists d bs := by
  constructor
  · intro h
    by_cases hmodules : ∃ modules, HasModules d modules
    · obtain ⟨modules, hmodules⟩ := hmodules
      rw [ofDocument_of_hasModules hmodules, mapM_eq_ok_iff] at h
      exact ⟨modules, hmodules, h.imp fun _ _ => ofEntry_eq_ok_iff.1⟩
    · rw [ofDocument_of_not_hasModules (not_exists.1 hmodules)] at h
      cases h
  · rintro ⟨modules, hmodules, hdeclares⟩
    rw [ofDocument_of_hasModules hmodules, mapM_eq_ok_iff]
    exact hdeclares.imp fun _ _ => ofEntry_of_declares

theorem refused_of_ofDocument (h : ofDocument file d = .error fault) : Refused file d fault := by
  by_cases hmodules : ∃ modules, HasModules d modules
  · obtain ⟨modules, hmodules⟩ := hmodules
    rw [ofDocument_of_hasModules hmodules] at h
    obtain ⟨before, e, after, rfl, hbefore, he⟩ := exists_first_of_mapM_eq_error h
    refine .complaint hmodules (fun e he => ?_) (ofEntry_eq_error_iff.1 he)
    obtain ⟨b, hb⟩ := hbefore e he
    exact ⟨b, ofEntry_eq_ok_iff.1 hb⟩
  · rw [ofDocument_of_not_hasModules (not_exists.1 hmodules)] at h
    cases h
    exact .withoutModules (not_exists.1 hmodules)

end Shape

end UserBoundary

def Fault.isOfBoundaryFile : Fault → Bool
  | .boundaryFileUnreadable | .boundaryFileWithoutModules _ | .moduleNotTable _ _ | .moduleWithoutPaths _ _
  | .moduleDescriptionNotText _ _ => true
  | _ => false

namespace UserBoundary

variable {R : Type} {file : String} {d : Document R} {bs : List UserBoundary} {fault : Fault} {t : FileTree}
  {path : String}

theorem Refused.isOfBoundaryFile (h : Refused file d fault) : fault.isOfBoundaryFile = true := by
  cases h with
  | withoutModules h => rfl
  | complaint _ _ hcomplaint =>
    cases hcomplaint with
    | notTable h => rfl
    | withoutPaths h => rfl
    | descriptionNotText _ _ _ h => rfl

section Loading

theorem readText_eq_badEncoding_iff :
    t.readText path = .error .badEncoding ↔
      ∃ bytes, t.find? path = some (.file bytes) ∧ Text.Utf8.decode? bytes = none := by
  rw [readText, readBytes]
  cases hnode : t.find? path with
  | none => by_cases hbelow : t.isBelowFile (resolve path) = true <;> simp [hbelow, error_bind]
  | some node =>
    cases node with
    | directory => simp [error_bind]
    | file bytes => cases hdecode : Text.Utf8.decode? bytes <;> simp [ok_bind, textOf, hdecode]

theorem unreadable_of_readText (h : t.readText path = .error fault) (hbytes : fault ≠ .badEncoding) :
    unreadable fault = .boundaryFileUnreadable := by
  rw [readText, readBytes] at h
  cases hnode : t.find? path with
  | none =>
    rw [hnode] at h
    by_cases hbelow : t.isBelowFile (resolve path) = true
    · simp only [hbelow, error_bind, if_true] at h
      cases h
      rfl
    · simp only [hbelow, error_bind] at h
      cases h
      rfl
  | some node =>
    rw [hnode] at h
    cases node with
    | directory =>
      cases h
      rfl
    | file bytes =>
      cases hdecode : Text.Utf8.decode? bytes with
      | some cs =>
        simp only [ok_bind, textOf, hdecode] at h
        cases h
      | none =>
        simp only [ok_bind, textOf, hdecode] at h
        cases h
        exact absurd rfl hbytes

variable [Scalar R]

variable {limits : Json.Limits}

theorem unreadable_of_isMalformedText (h : fault.isMalformedText = true) : unreadable fault = .boundaryFileUnreadable := by
  cases fault with
  | badToml | badJson | tooManyDigits => rfl
  | _ => cases h

/-- A file that is read as JSON, all of it that is well-formed. -/
structure IsLaxJson (path : String) (limits : Json.Limits) : Prop where
  suffix : Text.lower (Text.suffix path) = ".json"
  limits : limits.IsLax

theorem signalsMalformed_decode {text : String} (h : IsLaxJson path limits) :
    SignalsMalformed (decode path text limits : Except Fault (Document R)) := by
  rw [decode, if_pos h.suffix]
  exact Json.signalsMalformed_read h.limits text

theorem documentIn_eq_ok_iff :
    documentIn t path limits = .ok d ↔ ∃ text, t.readText path = .ok text ∧ decode path text limits = .ok d := by
  rw [documentIn]
  cases htext : t.readText path with
  | error fault => simp [error_bind, Except.mapError]
  | ok text =>
    cases hdecode : (decode path text limits : Except Fault (Document R)) <;> simp [ok_bind, hdecode, Except.mapError]

theorem load_eq_ok_iff :
    load R t path limits = .ok bs ↔
      ∃ text, ∃ d : Document R, t.readText path = .ok text ∧ decode path text limits = .ok d ∧ Lists d bs := by
  constructor
  · intro h
    obtain ⟨d, hd, h⟩ := exists_of_bind_eq_ok h
    obtain ⟨text, htext, hdecode⟩ := documentIn_eq_ok_iff.1 hd
    exact ⟨text, d, htext, hdecode, ofDocument_eq_ok_iff.1 h⟩
  · rintro ⟨text, d, htext, hdecode, hlists⟩
    rw [load, documentIn_eq_ok_iff.2 ⟨text, htext, hdecode⟩, ok_bind]
    exact ofDocument_eq_ok_iff.2 hlists

theorem unreadable_or_refused_of_load (h : load R t path limits = .error fault) :
    (∃ cause, t.readText path = .error cause ∧ fault = unreadable cause) ∨
    (∃ text cause, t.readText path = .ok text ∧ (decode path text limits : Except Fault (Document R)) = .error cause ∧
      fault = unreadable cause) ∨
    ∃ text, ∃ d : Document R, t.readText path = .ok text ∧ decode path text limits = .ok d ∧
      Refused (Text.normalPath path) d fault := by
  rw [load, documentIn] at h
  cases htext : t.readText path with
  | error cause =>
    rw [htext, error_bind] at h
    cases h
    exact Or.inl ⟨cause, rfl, rfl⟩
  | ok text =>
    rw [htext, ok_bind] at h
    cases hdecode : (decode path text limits : Except Fault (Document R)) with
    | error cause =>
      rw [hdecode] at h
      cases h
      exact Or.inr (Or.inl ⟨text, cause, rfl, hdecode, rfl⟩)
    | ok d =>
      rw [hdecode] at h
      exact Or.inr (Or.inr ⟨text, d, rfl, hdecode, refused_of_ofDocument h⟩)

/-- If the decoder of a file signals malformed text as such, which that of JSON does without limits, the file is loaded
exactly if its document has the right shape, with one boundary for each of its modules in order, and any other file is
refused with a fault of a boundary file. Only the bytes of a file that are no text lead to a fault of their own. -/
theorem load_or_refuse (t : FileTree) (path : String) (limits : Json.Limits)
    (hdecoder : ¬IsLaxJson path limits → ∀ text, t.readText path = .ok text →
      SignalsMalformed (decode path text limits : Except Fault (Document R))) :
    (∀ bs, load R t path limits = .ok bs ↔
      ∃ text, ∃ d : Document R, t.readText path = .ok text ∧ decode path text limits = .ok d ∧ Lists d bs) ∧
    (∀ fault, load R t path limits = .error fault → fault.isOfBoundaryFile = true ∨ fault = .badEncoding) ∧
    (load R t path limits = .error .badEncoding ↔
      ∃ bytes, t.find? path = some (.file bytes) ∧ Text.Utf8.decode? bytes = none) := by
  have hmalformed (text : String) (htext : t.readText path = .ok text) :
      SignalsMalformed (decode path text limits : Except Fault (Document R)) := by
    by_cases hjson : IsLaxJson path limits
    · exact signalsMalformed_decode hjson
    · exact hdecoder hjson text htext
  have hfaults (fault : Fault) (h : load R t path limits = .error fault) :
      fault.isOfBoundaryFile = true ∨ fault = .badEncoding ∧ t.readText path = .error .badEncoding := by
    obtain ⟨cause, htext, rfl⟩ | ⟨text, cause, htext, hdecode, rfl⟩ | ⟨text, d, -, -, hrefused⟩ :=
      unreadable_or_refused_of_load h
    · by_cases hbytes : cause = .badEncoding
      · subst hbytes
        exact Or.inr ⟨rfl, htext⟩
      · rw [unreadable_of_readText htext hbytes]
        exact Or.inl rfl
    · rw [unreadable_of_isMalformedText (hmalformed text htext cause hdecode)]
      exact Or.inl rfl
    · exact Or.inl hrefused.isOfBoundaryFile
  refine ⟨fun bs => load_eq_ok_iff, fun fault h => (hfaults fault h).imp_right And.left, ?_⟩
  rw [← readText_eq_badEncoding_iff]
  constructor
  · intro h
    obtain hboundary | ⟨-, htext⟩ := hfaults .badEncoding h
    · cases hboundary
    · exact htext
  · intro htext
    rw [load, documentIn, htext]
    rfl

section Files

def fileTreeOf (name : String) (bytes : List UInt8) : FileTree := ⟨[([name], .file bytes)]⟩

def modulesText : String :=
  "[modules.billing]\npaths = [\"billing/**\"]\n\n" ++
    "[modules.audit]\ndescription = \"Trail\"\npaths = [\"log/*\", \"audit/**\"]\n"

def modulesDocument : Document Rat := .table [("modules", .table [
  ("billing", .table [("paths", .texts ["billing/**"])]),
  ("audit", .table [("description", .text "Trail"), ("paths", .texts ["log/*", "audit/**"])])])]

def modulesDeclared : List UserBoundary := [
  { name := "billing", paths := ["billing/**"] },
  { name := "audit", description := "Trail", paths := ["log/*", "audit/**"] }]

theorem lists_modulesDocument : Lists modulesDocument modulesDeclared := by
  refine ⟨_, ⟨_, rfl, rfl, List.cons_ne_nil _ _⟩, .cons ?_ (.cons ?_ .nil)⟩
  · exact .plain rfl (List.cons_ne_nil _ _) rfl
  · exact .described rfl (List.cons_ne_nil _ _) rfl

theorem load_or_refuse_modulesText :
    (∀ text, (fileTreeOf "modules.toml" modulesText.toUTF8.toList).readText "modules.toml" = .ok text →
      SignalsMalformed (decode "modules.toml" text : Except Fault (Document Rat))) ∧
    load Rat (fileTreeOf "modules.toml" modulesText.toUTF8.toList) "modules.toml" = .ok modulesDeclared := by
  have htext : ((fileTreeOf "modules.toml" modulesText.toUTF8.toList).readText "modules.toml").toOption =
      some modulesText := by decide +kernel
  have hdecode : (decode "modules.toml" modulesText).toOption = some modulesDocument := by decide +kernel
  have hdecoder : ∀ text, (fileTreeOf "modules.toml" modulesText.toUTF8.toList).readText "modules.toml" = .ok text →
      SignalsMalformed (decode "modules.toml" text : Except Fault (Document Rat)) := by
    intro text h
    rw [eq_ok_of_toOption htext, Except.ok.injEq] at h
    rw [← h, eq_ok_of_toOption hdecode]
    exact .ok _
  refine ⟨hdecoder, ((load_or_refuse _ _ {} fun _ => hdecoder).1 _).2 ?_⟩
  exact ⟨_, _, eq_ok_of_toOption htext, eq_ok_of_toOption hdecode, lists_modulesDocument⟩

theorem load_loneByte :
    load Rat (fileTreeOf "modules.toml" [0xFF]) "modules.toml" = .error .badEncoding ∧
      Fault.badEncoding.isOfBoundaryFile = false := by
  have hfault : load Rat (fileTreeOf "modules.toml" [0xFF]) "modules.toml" = .error .badEncoding := by decide +kernel
  exact ⟨hfault, rfl⟩

end Files

end Loading

end UserBoundary

end Demarcation
