import Demarcation.Proofs.FloatOrder
import Demarcation.Proofs.SavedSettings
import Demarcation.Proofs.SettingChecks

namespace Demarcation

open Document

namespace Document

variable {R : Type}

def isNull : Document R → Bool
  | .null => true
  | _ => false

end Document

namespace Settings

variable {R : Type} [Scalar R] {t t' : FileTree} {home path key : String} {root : Option String} {c g : Settings R}
  {given layer user project : Layer R} {warnings : List Warning} {d : Document R} {s : Setting}

section Overriding

def valued (given : Layer R) : Layer R := given.filter fun e => !e.2.isNull

section Valued

omit [Scalar R]

theorem valued_cons_of_isNull {e : String × Document R} (h : e.2.isNull = true) : valued (e :: given) = valued given :=
  List.filter_cons_of_neg (by rw [h]; decide)

theorem valued_cons {e : String × Document R} (h : e.2.isNull = false) : valued (e :: given) = e :: valued given :=
  List.filter_cons_of_pos (by rw [h]; rfl)

theorem present_cons_of_isNull {e : String × Document R} (h : e.2.isNull = true) :
    present (e :: given) = present given := by
  obtain ⟨key, value⟩ := e
  cases value with
  | null => rfl
  | _ => cases h

theorem present_cons {e : String × Document R} (h : e.2.isNull = false) :
    present (e :: given) =
      if (Setting.ofName? e.1).isSome then (present given).map (e :: ·) else .error (.unknownSetting e.1) := by
  obtain ⟨key, value⟩ := e
  cases value with
  | null => cases h
  | _ => cases hkey : Setting.ofName? key <;> cases hrest : present given <;> simp [present, hkey, hrest] <;> rfl

theorem present_of_known (h : Known (valued given)) : present given = .ok (valued given) := by
  induction given with
  | nil => rfl
  | cons e given ih =>
    cases hnull : e.2.isNull with
    | true =>
      rw [valued_cons_of_isNull hnull] at h ⊢
      rw [present_cons_of_isNull hnull, ih h]
    | false =>
      rw [valued_cons hnull] at h ⊢
      obtain ⟨hkey, hrest⟩ := List.forall_mem_cons.1 h
      rw [present_cons hnull, if_pos hkey, ih hrest]
      rfl

theorem known_of_present (h : present given = .ok layer) : Known (valued given) := by
  induction given generalizing layer with
  | nil => exact nofun
  | cons e given ih =>
    cases hnull : e.2.isNull with
    | true =>
      rw [present_cons_of_isNull hnull] at h
      rw [valued_cons_of_isNull hnull]
      exact ih h
    | false =>
      rw [present_cons hnull] at h
      split at h
      · next hkey =>
        cases hrest : present given with
        | error fault =>
          rw [hrest] at h
          cases h
        | ok rest =>
          rw [valued_cons hnull]
          exact List.forall_mem_cons.2 ⟨hkey, ih hrest⟩
      · cases h

theorem find?_valued (h : (given.map Prod.fst).Nodup) :
    find? key (valued given) = (find? key given).filter fun d => !d.isNull := by
  induction given with
  | nil => rfl
  | cons e given ih =>
    rw [List.map_cons, List.nodup_cons] at h
    cases hnull : e.2.isNull with
    | true =>
      rw [valued_cons_of_isNull hnull, ih h.2]
      by_cases hkey : e.1 = key
      · simp [find?_eq_none_of_not_mem (hkey ▸ h.1), find?, hkey, Option.filter, hnull]
      · rw [find?, if_neg hkey]
    | false =>
      rw [valued_cons hnull]
      by_cases hkey : e.1 = key
      · simp [find?, hkey, Option.filter, hnull]
      · simp only [find?, if_neg hkey, ih h.2]

end Valued

theorem override_eq_ok_iff :
    g.override given = .ok c ↔ Known (valued given) ∧ ofLayer (putAll g.layer (valued given)) = .ok c := by
  constructor
  · intro h
    obtain ⟨layer, hlayer, h⟩ := exists_of_bind_eq_ok h
    have hknown := known_of_present hlayer
    rw [present_of_known hknown, Except.ok.injEq] at hlayer
    exact ⟨hknown, hlayer ▸ h⟩
  · rintro ⟨hknown, h⟩
    rw [override, present_of_known hknown]
    exact h

theorem override_nil (h : ofLayer layer = .ok c) : c.override [] = .ok c := by
  obtain ⟨-, hadmits, rfl⟩ := ofLayer_eq_ok_iff.1 h
  refine override_eq_ok_iff.2 ⟨nofun, ofLayer_eq_ok_iff.2 ⟨known_layer _, fun s => ?_, ?_⟩⟩
  · rw [valued, List.filter_nil, putAll, List.foldl_nil, assemble_layer]
    exact Setting.admits_settled_iff.2 (hadmits s)
  · rw [valued, List.filter_nil, putAll, List.foldl_nil, assemble_layer]
    simp only [settled, Setting.settled_settled]

end Overriding

section Sections

def entriesOf : Document R → Layer R
  | .table given => given
  | _ => []

/-- A settings file gives the entries of its section about the analysis. A file that is not there or cannot be read gives
none, and so does a section that is no table. -/
def HasSection (t : FileTree) (path : String) (given : Layer R) : Prop :=
  ∃ entries warnings, documentIn t path = (.ok (.table entries), warnings) ∧ given = entriesOf (sectionOf entries)

def HasProjectSection (t : FileTree) : Option String → Layer R → Prop
  | none, given => given = []
  | some root, given => HasSection t (projectFile root) given

def knownOf (given : Layer R) : Layer R := given.filter fun e => (Setting.ofName? e.1).isSome

omit [Scalar R] in
theorem taken_eq (d : Document R) : taken d = knownOf (entriesOf d) := by
  cases d <;> rfl

omit [Scalar R] in
theorem find?_knownOf (s : Setting) (given : Layer R) : find? s.name (knownOf given) = find? s.name given := by
  induction given with
  | nil => rfl
  | cons e given ih =>
    by_cases hknown : (Setting.ofName? e.1).isSome
    · have hcons : knownOf (e :: given) = e :: knownOf given := List.filter_cons_of_pos hknown
      rw [hcons, find?, find?, ih]
    · have hcons : knownOf (e :: given) = knownOf given := List.filter_cons_of_neg hknown
      have hname : e.1 ≠ s.name := by
        intro hname
        rw [hname, Setting.ofName?_name] at hknown
        exact hknown rfl
      rw [hcons, ih, find?, if_neg hname]

omit [Scalar R] in
theorem nodup_keys_knownOf (h : (given.map Prod.fst).Nodup) : ((knownOf given).map Prod.fst).Nodup :=
  h.sublist (List.filter_sublist.map Prod.fst)

theorem HasSection.nodup_keys {given : Layer R} (h : HasSection t path given) : (given.map Prod.fst).Nodup := by
  obtain ⟨entries, warnings, hdocument, rfl⟩ := h
  have hdistinct : (sectionOf entries).Distinct := distinct_sectionOf (distinct_documentIn hdocument)
  cases hsection : sectionOf entries with
  | table given =>
    rw [hsection] at hdistinct
    exact hdistinct.nodup_keys
  | _ => exact List.nodup_nil

theorem HasSection.unique (h : HasSection t path given) (h' : HasSection t path layer) : given = layer := by
  obtain ⟨entries, warnings, hdocument, rfl⟩ := h
  obtain ⟨entries', warnings', hdocument', rfl⟩ := h'
  rw [hdocument] at hdocument'
  cases hdocument'
  rfl

theorem HasProjectSection.unique (h : HasProjectSection t root given) (h' : HasProjectSection t root layer) :
    given = layer := by
  cases root with
  | none => exact h.trans h'.symm
  | some root => exact HasSection.unique h h'

theorem HasProjectSection.nodup_keys {given : Layer R} (h : HasProjectSection t root given) :
    (given.map Prod.fst).Nodup := by
  cases root with
  | none =>
    rw [HasProjectSection] at h
    rw [h]
    exact List.nodup_nil
  | some root => exact HasSection.nodup_keys h

theorem HasSection.fst_layerOf {given : Layer R} (h : HasSection t path given) :
    (layerOf t path).1 = .ok (knownOf given) := by
  obtain ⟨entries, warnings, hdocument, rfl⟩ := h
  rw [Settings.fst_layerOf hdocument, taken_eq]

theorem exists_hasSection_of_layerOf (h : (layerOf t path).1 = .ok layer) :
    ∃ given, HasSection t path given ∧ layer = knownOf given := by
  cases hdocument : (documentIn t path : Except Fault (Document R) × List Warning) with
  | mk result warnings =>
    cases result with
    | error fault =>
      rw [layerOf, hdocument] at h
      cases h
    | ok d =>
      cases d with
      | table entries =>
        rw [fst_layerOf hdocument, taken_eq] at h
        exact ⟨_, ⟨entries, warnings, hdocument, rfl⟩, (Except.ok.inj h).symm⟩
      | _ =>
        rw [layerOf, hdocument] at h
        cases h

theorem HasProjectSection.fst_projectLayerOf {given : Layer R} (h : HasProjectSection t root given) :
    (projectLayerOf t root).1 = .ok (knownOf given) := by
  cases root with
  | none =>
    rw [HasProjectSection] at h
    rw [h]
    rfl
  | some root => exact HasSection.fst_layerOf h

theorem exists_hasProjectSection_of_projectLayerOf (h : (projectLayerOf t root).1 = .ok layer) :
    ∃ given, HasProjectSection t root given ∧ layer = knownOf given := by
  cases root with
  | none => exact ⟨[], rfl, (Except.ok.inj h).symm⟩
  | some root => exact exists_hasSection_of_layerOf h

end Sections

section Loading

theorem fst_load_eq (t : FileTree) (home : String) (root : Option String) (given : Layer R) :
    (load t home root given).1 =
      (layerOf t (userFile home)).1 >>= fun user => (projectLayerOf t root).1 >>= fun project =>
        ofLayer (putAll (putAll [] user) project) >>= fun g => if given.isEmpty then .ok g else g.override given := by
  unfold load
  cases (layerOf t (userFile home) : Except Fault (Layer R) × List Warning) with
  | mk user warnings => cases (projectLayerOf t root : Except Fault (Layer R) × List Warning) with
    | mk project more => rfl

theorem ofLayer_override_eq_ok_iff :
    (ofLayer layer >>= fun g => if given.isEmpty then .ok g else g.override given) = .ok c ↔
      ∃ g, ofLayer layer = .ok g ∧ g.override given = .ok c := by
  constructor
  · intro h
    obtain ⟨g, hg, h⟩ := exists_of_bind_eq_ok h
    refine ⟨g, hg, ?_⟩
    by_cases hgiven : given.isEmpty = true
    · rw [if_pos hgiven, Except.ok.injEq] at h
      rw [List.isEmpty_iff.1 hgiven, override_nil hg, h]
    · rwa [if_neg hgiven] at h
  · rintro ⟨g, hg, h⟩
    rw [hg, ok_bind]
    by_cases hgiven : given.isEmpty = true
    · rw [List.isEmpty_iff.1 hgiven, override_nil hg] at h
      rw [if_pos hgiven, h]
    · rw [if_neg hgiven, h]

theorem exists_sections_of_load (h : (load t home root given).1 = .ok c) :
    ∃ user project g, HasSection t (userFile home) user ∧ HasProjectSection t root project ∧
      ofLayer (putAll (putAll [] (knownOf user)) (knownOf project)) = .ok g ∧ g.override given = .ok c := by
  rw [fst_load_eq] at h
  obtain ⟨_, huser, h⟩ := exists_of_bind_eq_ok h
  obtain ⟨_, hproject, h⟩ := exists_of_bind_eq_ok h
  obtain ⟨user, hsection, rfl⟩ := exists_hasSection_of_layerOf huser
  obtain ⟨project, hprojectSection, rfl⟩ := exists_hasProjectSection_of_projectLayerOf hproject
  obtain ⟨g, hg, h⟩ := ofLayer_override_eq_ok_iff.1 h
  exact ⟨user, project, g, hsection, hprojectSection, hg, h⟩

omit [Scalar R] in
theorem known_knownOf (given : Layer R) : Known (knownOf given) := fun _ he => (List.mem_filter.1 he).2

omit [Scalar R] in
theorem known_files (user project : Layer R) : Known (putAll (putAll [] (knownOf user)) (knownOf project)) :=
  known_putAll (known_putAll nofun (known_knownOf user)) (known_knownOf project)

omit [Scalar R] in
theorem find?_files (huser : (user.map Prod.fst).Nodup) (hproject : (project.map Prod.fst).Nodup) (s : Setting) :
    find? s.name (putAll (putAll [] (knownOf user)) (knownOf project)) =
      (find? s.name project).or (find? s.name user) := by
  rw [find?_putAll, find?_putAll, find?_reverse (nodup_keys_knownOf hproject),
    find?_reverse (nodup_keys_knownOf huser), find?_knownOf, find?_knownOf, find?, Option.or_none]

theorem value_of_override (hlayer : ofLayer layer = .ok g) (hgiven : (given.map Prod.fst).Nodup)
    (h : g.override given = .ok c) (s : Setting) {d : Document R}
    (hd : d = (((find? s.name given).filter fun d => !d.isNull).or (find? s.name layer)).getD s.default) :
    s.Admits d ∧ c.value s = s.settled d := by
  obtain ⟨-, hadmits, rfl⟩ := ofLayer_eq_ok_iff.1 hlayer
  obtain ⟨-, h⟩ := override_eq_ok_iff.1 h
  obtain ⟨-, hadmits', rfl⟩ := ofLayer_eq_ok_iff.1 h
  have hvalued : ((valued given).map Prod.fst).Nodup := hgiven.sublist (List.filter_sublist.map Prod.fst)
  have hvalue : (assemble (putAll (assemble layer).settled.layer (valued given))).value s =
      ((find? s.name given).filter fun d => !d.isNull).getD (s.settled ((assemble layer).value s)) := by
    rw [value_assemble, find?_putAll, find?_reverse hvalued, find?_valued hgiven, find?_layer]
    cases (find? s.name given).filter fun d => !d.isNull <;> rfl
  have hsettled : (assemble (putAll (assemble layer).settled.layer (valued given))).settled.value s =
      s.settled ((assemble (putAll (assemble layer).settled.layer (valued given))).value s) := rfl
  have hgood := hadmits' s
  rw [hsettled]
  rw [hvalue] at hgood ⊢
  cases hover : (find? s.name given).filter fun d => !d.isNull with
  | some v =>
    rw [hover] at hd hgood
    subst hd
    exact ⟨hgood, rfl⟩
  | none =>
    rw [hover, Option.none_or, ← value_assemble] at hd
    subst hd
    exact ⟨hadmits s, Setting.settled_settled s _⟩

def firstValue (given project user : Layer R) (s : Setting) : Document R :=
  (((find? s.name given).filter fun d => !d.isNull).or ((find? s.name project).or (find? s.name user))).getD s.default

theorem value_of_load (hgiven : (given.map Prod.fst).Nodup) (h : (load t home root given).1 = .ok c) :
    ∃ user project, HasSection t (userFile home) user ∧ HasProjectSection t root project ∧
      ∀ s : Setting, s.Admits (firstValue given project user s) ∧
        c.value s = s.settled (firstValue given project user s) := by
  obtain ⟨user, project, g, huser, hproject, hg, h⟩ := exists_sections_of_load h
  refine ⟨user, project, huser, hproject, fun s => value_of_override hg hgiven h s ?_⟩
  rw [find?_files huser.nodup_keys hproject.nodup_keys, firstValue]

theorem fst_load_congr {user' project' : Layer R} (huser : HasSection t (userFile home) user)
    (hproject : HasProjectSection t root project) (huser' : HasSection t' (userFile home) user')
    (hproject' : HasProjectSection t' root project') (hagree : ∀ s : Setting, find? s.name user' = find? s.name user)
    (hagree' : ∀ s : Setting, find? s.name project' = find? s.name project) :
    (load t' home root given).1 = (load t home root given).1 := by
  have hfiles : ofLayer (putAll (putAll [] (knownOf user')) (knownOf project')) =
      ofLayer (putAll (putAll [] (knownOf user)) (knownOf project)) := by
    rw [ofLayer_of_known (known_files user' project'), ofLayer_of_known (known_files user project)]
    congr 1
    apply assemble_congr
    intro s
    rw [find?_files huser'.nodup_keys hproject'.nodup_keys, find?_files huser.nodup_keys hproject.nodup_keys, hagree,
      hagree']
  rw [fst_load_eq, fst_load_eq, huser.fst_layerOf, hproject.fst_projectLayerOf, huser'.fst_layerOf,
    hproject'.fst_projectLayerOf]
  simp only [ok_bind, hfiles]

theorem fault_of_unknown {value : Document R} (hmem : (key, value) ∈ given) (hvalue : value ≠ .null)
    (hkey : Setting.ofName? key = none) : ∃ fault, (load t home root given).1 = .error fault := by
  cases h : (load t home root given).1 with
  | error fault => exact ⟨fault, rfl⟩
  | ok c =>
    obtain ⟨user, project, g, -, -, -, h⟩ := exists_sections_of_load h
    obtain ⟨hknown, -⟩ := override_eq_ok_iff.1 h
    have hnull : (!value.isNull) = true := by cases value <;> first | rfl | exact absurd rfl hvalue
    have hsome := hknown (key, value) (List.mem_filter.2 ⟨hmem, hnull⟩)
    rw [hkey] at hsome
    cases hsome

end Loading

section Warnings

def WarnsOf (path : String) (given : Layer R) (warnings : List Warning) : Prop :=
  ∃ (others : List Warning) (names : List String), warnings = others ++ names.map (Warning.unknownSetting · path) ∧
    (∀ w ∈ others, ∀ name place, w ≠ .unknownSetting name place) ∧ names.Nodup ∧
    ∀ name, name ∈ names ↔ name ∈ given.map Prod.fst ∧ Setting.ofName? name = none

def WarnsOfProject : Option String → Layer R → List Warning → Prop
  | none, _, warnings => warnings = []
  | some root, given, warnings => WarnsOf (projectFile root) given warnings

theorem ne_unknownSetting_of_documentIn {w : Warning}
    (h : w ∈ (documentIn t path : Except Fault (Document R) × List Warning).2) (name place : String) :
    w ≠ .unknownSetting name place := by
  unfold documentIn at h
  split at h
  · cases h
  · split at h
    · cases h
    · rw [List.mem_singleton.1 h]
      nofun
    · rw [List.mem_singleton.1 h]
      nofun
    · cases h

theorem HasSection.warnsOf (h : HasSection t path given) :
    WarnsOf path given (layerOf t path : Except Fault (Layer R) × List Warning).2 := by
  obtain ⟨entries, warnings, hdocument, rfl⟩ := h
  have hothers : ∀ w ∈ warnings, ∀ name place, w ≠ .unknownSetting name place := by
    intro w hw
    have hmem : w ∈ (documentIn t path : Except Fault (Document R) × List Warning).2 := by rwa [hdocument]
    exact ne_unknownSetting_of_documentIn hmem
  -- The names are those of a section that is a table. No other document has warnings about single entries.
  have hsection : (Document.table entries).getD "discovery" (.table []) = .ok (sectionOf entries) := rfl
  rw [layerOf, hdocument]
  dsimp only
  rw [section?, hsection]
  cases sectionOf entries with
  | table given =>
    refine ⟨warnings, _, rfl, hothers, SortedSet.nodup_toList _, fun name => ?_⟩
    rw [← SortedSet.mem_def, SortedSet.mem_ofList, List.mem_map]
    simp only [List.mem_filter, Option.isNone_iff_eq_none, entriesOf, List.mem_map]
    constructor
    · rintro ⟨e, ⟨he, hname⟩, rfl⟩
      exact ⟨⟨e, he, rfl⟩, hname⟩
    · rintro ⟨⟨e, he, rfl⟩, hname⟩
      exact ⟨e, ⟨he, hname⟩, rfl⟩
  | _ =>
    refine ⟨warnings ++ [.sectionNotTable path], [], (List.append_nil _).symm, ?_, List.nodup_nil, fun name => ?_⟩
    · intro w hw
      obtain hw | hw := List.mem_append.1 hw
      · exact hothers w hw
      · rw [List.mem_singleton.1 hw]
        exact fun _ _ h => Warning.noConfusion h
    · exact ⟨fun hname => absurd hname List.not_mem_nil, fun h => absurd h.1 List.not_mem_nil⟩

theorem HasProjectSection.warnsOf (h : HasProjectSection t root given) :
    WarnsOfProject root given (projectLayerOf t root : Except Fault (Layer R) × List Warning).2 := by
  cases root with
  | none => rfl
  | some root => exact HasSection.warnsOf h

theorem snd_load (h : HasSection t (userFile home) user) :
    (load t home root given).2 = (layerOf t (userFile home) : Except Fault (Layer R) × List Warning).2 ++
      (projectLayerOf t root : Except Fault (Layer R) × List Warning).2 := by
  have hlayer := h.fst_layerOf
  unfold load
  cases hresult : (layerOf t (userFile home) : Except Fault (Layer R) × List Warning) with
  | mk result warnings =>
    rw [hresult] at hlayer
    cases hlayer
    rfl

end Warnings

section Bounds

def AtLeast (bound : Int) (d : Document Float) : Prop := ∃ x, d.number? = .ok x ∧ Scalar.ofInt bound ≤ x

def IsNaN (d : Document Float) : Prop := ∃ x, d.number? = .ok x ∧ x.isNaN = true

theorem atLeast_or_isNaN {bound : Int} {d : Document Float} (hbound : (Scalar.ofInt bound : Float).isNaN = false)
    (h : d.NotBelow bound) : AtLeast bound d ∨ IsNaN d := by
  obtain ⟨x, hx, hlt⟩ := h
  cases hnan : x.isNaN with
  | true => exact Or.inr ⟨x, hx, hnan⟩
  | false => exact Or.inl ⟨x, hx, FloatOrder.le_of_not_lt hnan hbound hlt⟩

/-- The bounds of the settings that are in effect. A limit that is no number is below no bound. -/
structure Bounded (c : Settings Float) : Prop where
  sampling : ∃ mode ∈ samplingModes, c.value .sampling = .text mode
  maxFiles : AtLeast 1 (c.value .maxFiles) ∨ IsNaN (c.value .maxFiles)
  maxDependencyNodes : AtLeast 2 (c.value .maxDependencyNodes) ∨ IsNaN (c.value .maxDependencyNodes)
  minConfidence : (c.value .minConfidence).WithinUnit
  workers : ∃ n, 1 ≤ n ∧ c.value .workers = .int n

theorem bounded_of_admits {c : Settings Float} {value : Setting → Document Float}
    (hadmits : ∀ s : Setting, s.Admits (value s)) (hvalue : ∀ s : Setting, c.value s = s.settled (value s)) : Bounded c where
  sampling := by
    rw [hvalue]
    exact hadmits .sampling
  maxFiles := by
    rw [hvalue]
    exact atLeast_or_isNaN (by decide +kernel) (hadmits .maxFiles)
  maxDependencyNodes := by
    rw [hvalue]
    exact atLeast_or_isNaN (by decide +kernel) (hadmits .maxDependencyNodes)
  minConfidence := by
    rw [hvalue]
    exact hadmits .minConfidence
  workers := by
    obtain ⟨n, hn⟩ := hadmits .workers
    rw [hvalue, Setting.settled_workers hn]
    exact ⟨max 1 n, by omega, rfl⟩

end Bounds

/-- Settings are loaded with the value of the first layer that gives one. What is not known is refused on the spot; in a file
it leads to a warning and has no other effect. All values have their bounds, but for limits that are no numbers. -/
theorem load_layers (t : FileTree) (home : String) (root : Option String) (given : Layer Float)
    (hgiven : (given.map Prod.fst).Nodup) :
    (∀ key value, (key, value) ∈ given → value ≠ .null → Setting.ofName? key = none →
      ∃ fault, (load t home root given).1 = .error fault) ∧
    ∀ c warnings, load t home root given = (.ok c, warnings) →
      ∃ user project, HasSection t (userFile home) user ∧ HasProjectSection t root project ∧
        (∀ s : Setting, c.value s = s.settled (firstValue given project user s)) ∧
        (∃ first more, warnings = first ++ more ∧ WarnsOf (userFile home) user first ∧ WarnsOfProject root project more) ∧
        (∀ t' user' project', HasSection t' (userFile home) user' → HasProjectSection t' root project' →
          (∀ s : Setting, find? s.name user' = find? s.name user) →
          (∀ s : Setting, find? s.name project' = find? s.name project) → (load t' home root given).1 = .ok c) ∧
        Bounded c := by
  refine ⟨fun key value hmem hvalue hkey => fault_of_unknown hmem hvalue hkey, fun c warnings hload => ?_⟩
  have hfst : (load t home root given).1 = .ok c := congrArg Prod.fst hload
  have hsnd : (load t home root given).2 = warnings := congrArg Prod.snd hload
  obtain ⟨user, project, huser, hproject, hvalue⟩ := value_of_load hgiven hfst
  refine ⟨user, project, huser, hproject, fun s => (hvalue s).2, ?_, ?_, ?_⟩
  · exact ⟨_, _, hsnd.symm.trans (snd_load huser), huser.warnsOf, hproject.warnsOf⟩
  · intro t' user' project' huser' hproject' hagree hagree'
    rw [fst_load_congr huser hproject huser' hproject' hagree hagree', hfst]
  · exact bounded_of_admits (fun s => (hvalue s).1) fun s => (hvalue s).2

section Files

def layeredFiles : FileTree := ⟨[
  (["home"], .directory),
  (["home", "config.toml"],
    .file "[discovery]\nmax_files = 20\nsampling = \"stride\"\ncolour = 1\n".toUTF8.toList),
  (["shop"], .directory),
  (["shop", "codebound.toml"], .file "[discovery]\nmax_files = 30\nworkers = 8\n".toUTF8.toList)]⟩

def userLayer : Layer Float := [("max_files", .int 20), ("sampling", .text "stride"), ("colour", .int 1)]

def projectLayer : Layer Float := [("max_files", .int 30), ("workers", .int 8)]

def layeredOverrides : Layer Float := [("max_files", .null), ("workers", .int 0)]

theorem hasSection_userLayer : HasSection layeredFiles (userFile "home") userLayer := by
  have hdocument : (documentIn layeredFiles (userFile "home") : Except Fault (Document Float) × List Warning).1.toOption =
      some (.table [("discovery", .table userLayer)]) := by decide +kernel
  exact ⟨_, _, Prod.ext (eq_ok_of_toOption hdocument) rfl, rfl⟩

theorem hasProjectSection_projectLayer : HasProjectSection layeredFiles (some "shop") projectLayer := by
  have hdocument : (documentIn layeredFiles (projectFile "shop") : Except Fault (Document Float) × List Warning).1.toOption =
      some (.table [("discovery", .table projectLayer)]) := by decide +kernel
  exact ⟨_, _, Prod.ext (eq_ok_of_toOption hdocument) rfl, rfl⟩

theorem load_layers_layeredFiles :
    (layeredOverrides.map Prod.fst).Nodup ∧
      ∃ c, (load layeredFiles "home" (some "shop") layeredOverrides).1 = .ok c ∧ c.value .maxFiles = .int 30 ∧
        c.value .sampling = .text "stride" ∧ c.value .workers = .int 1 ∧ c.value .timeout = .null := by
  have hgiven : (layeredOverrides.map Prod.fst).Nodup := by decide
  have hvalid : (ofLayer (putAll (putAll [] (knownOf userLayer)) (knownOf projectLayer)) >>=
      fun g => if layeredOverrides.isEmpty then .ok g else g.override layeredOverrides).toOption.isSome := by decide +kernel
  obtain ⟨c, hc⟩ := Option.isSome_iff_exists.1 hvalid
  have hload : (load layeredFiles "home" (some "shop") layeredOverrides).1 = .ok c := by
    rw [fst_load_eq, hasSection_userLayer.fst_layerOf, hasProjectSection_projectLayer.fst_projectLayerOf, ok_bind, ok_bind,
      eq_ok_of_toOption hc]
  obtain ⟨user, project, huser, hproject, hvalue, -⟩ :=
    (load_layers layeredFiles "home" (some "shop") layeredOverrides hgiven).2 c _ (Prod.ext hload rfl)
  obtain rfl := huser.unique hasSection_userLayer
  obtain rfl := hproject.unique hasProjectSection_projectLayer
  exact ⟨hgiven, c, hload, hvalue .maxFiles, hvalue .sampling, hvalue .workers, hvalue .timeout⟩

def nanText : String := "[discovery]\nmax_files = nan\n"

theorem load_nanText :
    ∃ c : Settings Float, (load (homeWith nanText) "home" none ([] : Layer Float)).1 = .ok c ∧
      ¬ AtLeast 1 (c.value .maxFiles) := by
  have hload : (load (homeWith nanText) "home" none ([] : Layer Float)).1.toOption.isSome := by decide +kernel
  obtain ⟨c, hc⟩ := Option.isSome_iff_exists.1 hload
  have hvalue : (load (homeWith nanText) "home" none ([] : Layer Float)).1.toOption.map (·.value .maxFiles) =
      some (.number (0.0 / 0)) := by decide +kernel
  rw [hc, Option.map_some, Option.some_inj] at hvalue
  refine ⟨c, eq_ok_of_toOption hc, ?_⟩
  rintro ⟨x, hx, hle⟩
  rw [hvalue] at hx
  cases hx
  exact absurd hle (by decide +kernel)

end Files

end Settings

end Demarcation
