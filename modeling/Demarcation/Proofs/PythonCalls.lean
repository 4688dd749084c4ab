import Demarcation.Language.PythonDeclarations
import Demarcation.Proofs.Grouping

namespace Demarcation.Python

open Grammar Grammar.Tree

def isClosed (t : Tree) : Bool := isDefinition t || t.kind == .string

/-- A function has a call in its body, not in a first statement that begins with a text, and no node above the call is
`closed`. -/
def Calls (closed : Tree → Bool) (f : Tree) (name : String) : Prop :=
  ∃ body ∈ f.child? .block, ∃ s ∈ afterDocumentation body.children, ∃ above call,
    Path s above call ∧ (∀ a ∈ above, closed a = false) ∧ calledName? call = some name

def namesCalled (closed : Tree → Bool) (f : Tree) : List String :=
  (f.child? .block).toList.flatMap fun body =>
    (visit closed (afterDocumentation body.children)).filterMap calledName?

theorem mem_namesCalled_iff {closed : Tree → Bool} {f : Tree} {name : String} :
    name ∈ namesCalled closed f ↔ Calls closed f name := by
  simp only [namesCalled, Calls, List.mem_flatMap, Option.mem_toList, List.mem_filterMap, mem_visit_iff]
  constructor
  · rintro ⟨body, hbody, call, ⟨s, hs, above, hpath, hopen⟩, hname⟩
    exact ⟨body, hbody, s, hs, above, call, hpath, hopen, hname⟩
  · rintro ⟨body, hbody, s, hs, above, call, hpath, hopen, hname⟩
    exact ⟨body, hbody, call, ⟨s, hs, above, hpath, hopen⟩, hname⟩

theorem calledName?_of_isDefinition {t : Tree} (h : isDefinition t = true) : calledName? t = none := by
  rw [calledName?.eq_def]
  split
  · simp [isDefinition, kind] at h
  · rfl

theorem ne_empty_of_calledName? {t : Tree} {name : String} (h : calledName? t = some name) : name ≠ "" := by
  rw [calledName?.eq_def] at h
  split at h
  · simpa using (Option.filter_eq_some_iff.1 h).2
  · cases h

theorem filterMap_bodyNodes (body : Tree) :
    (bodyNodes body).filterMap calledName? =
      (visit isClosed (afterDocumentation body.children)).filterMap calledName? := by
  simp only [bodyNodes, List.filterMap_filter]
  congr 1
  funext t
  -- the definitions that are dropped are no calls
  cases hdefinition : isDefinition t with
  | true => simp [calledName?_of_isDefinition hdefinition]
  | false => rfl

theorem calls_functionOf (file : String) (owner : Option String) (f : Tree) :
    (functionOf file owner f).calls = distinctNames (namesCalled isClosed f) := by
  have hcalls : (functionOf file owner f).calls =
      distinctNames (((f.child? .block).toList.flatMap bodyNodes).filterMap calledName?) := rfl
  rw [hcalls, List.filterMap_flatMap, namesCalled]
  simp only [filterMap_bodyNodes]

theorem mem_calls_functionOf_iff {file : String} {owner : Option String} {f : Tree} {name : String} :
    name ∈ (functionOf file owner f).calls ↔ Calls isClosed f name := by
  rw [calls_functionOf, mem_distinctNames_iff, mem_namesCalled_iff]
  constructor
  · exact fun h => h.1
  · rintro ⟨body, hbody, s, hs, above, call, hpath, hopen, hname⟩
    exact ⟨⟨body, hbody, s, hs, above, call, hpath, hopen, hname⟩, ne_empty_of_calledName? hname⟩

def functionsAt (s : Tree) : List (Option String × Tree) :=
  let d := undecorated s
  if d.kind == .classDefinition then
    (((d.child? .block).toList.flatMap (·.children)).map undecorated |>.filter (·.kind == .function)).map
      (some (d.textOf .identifier), ·)
  else if d.kind == .function then [(none, d)] else []

theorem kind_classOf (file : String) (t : Tree) : ((classOf file t).kind == .function) = false := by
  rw [classOf]
  simp only
  split
  · rfl
  · rfl

theorem filter_declarationsOf (file : String) (s : Tree) :
    (declarationsOf file s).filter (·.kind == .function) =
      (functionsAt s).map fun p => functionOf file p.1 p.2 := by
  have hfunction (owner : Option String) (ts : List Tree) :
      (ts.map (functionOf file owner)).filter (·.kind == .function) = ts.map (functionOf file owner) := by
    simp [List.filter_eq_self, functionOf]
  simp only [declarationsOf, functionsAt]
  split
  · rw [List.filter_cons_of_neg (by simp [kind_classOf]), hfunction, List.map_map]
    rfl
  · split
    · rfl
    · rfl

theorem functions_declarations (file : String) (t : Tree) :
    (declarations file t).functions = (t.children.flatMap functionsAt).map fun p => functionOf file p.1 p.2 := by
  rw [List.map_flatMap]
  simp only [declarations, List.filter_flatMap, filter_declarationsOf]

/-- The functions that are extracted from a module are those that its statements define, and for each of them the names
of the calls in its body are recorded once, but not of those in another definition, in a text or in a first statement that
begins with a text. -/
theorem extract_calls {text file : String} {e : Extraction} (h : extract text file = .ok e) :
    ∃ t, parse? text = some t ∧
      e.functions = (t.children.flatMap functionsAt).map (fun p => functionOf file p.1 p.2) ∧
      ∀ p ∈ t.children.flatMap functionsAt, (functionOf file p.1 p.2).calls.Nodup ∧
        ∀ name, name ∈ (functionOf file p.1 p.2).calls ↔ Calls isClosed p.2 name := by
  rw [extract] at h
  split at h
  · next t ht =>
    obtain rfl := Except.ok.inj h
    refine ⟨t, ht, functions_declarations file t, fun p _ => ⟨?_, fun name => mem_calls_functionOf_iff⟩⟩
    rw [calls_functionOf]
    exact nodup_distinctNames _
  · cases h

theorem exists_extract_of_calls {text file : String} {calls : List (List String)}
    (h : (parse? text).map (fun t => (declarations file t).functions.map (·.calls)) = some calls) :
    ∃ t, parse? text = some t ∧ extract text file = .ok (declarations file t) ∧
      (declarations file t).functions.map (·.calls) = calls := by
  obtain ⟨t, ht, hcalls⟩ := Option.map_eq_some_iff.1 h
  exact ⟨t, ht, by rw [extract, ht], hcalls⟩

def nestedDefinition : String :=
  "def load(ids):\n    def key(i):\n        return parse(i)\n    return fetch(sorted(ids, key=key))[0].rows()\n"

theorem extract_calls_nestedDefinition :
    ∃ e t, extract nestedDefinition "pkg/file" = .ok e ∧ e.functions.map (·.calls) = [["rows", "fetch", "sorted"]] ∧
      parse? nestedDefinition = some t ∧ ∃ p ∈ t.children.flatMap functionsAt,
        Calls isClosed p.2 "fetch" ∧ ¬Calls isClosed p.2 "parse" := by
  obtain ⟨t, ht, hextract, hcalls⟩ := exists_extract_of_calls
    (show (parse? nestedDefinition).map (fun t => (declarations "pkg/file" t).functions.map (·.calls)) =
      some [["rows", "fetch", "sorted"]] by decide +kernel)
  obtain ⟨t', ht', hfunctions, hiff⟩ := extract_calls hextract
  obtain rfl : t = t' := Option.some.inj (ht.symm.trans ht')
  refine ⟨_, t, hextract, hcalls, ht, ?_⟩
  rw [hfunctions, List.map_map] at hcalls
  obtain ⟨p, hp, hpcalls⟩ := List.mem_map.1 (hcalls ▸ List.mem_singleton_self _)
  obtain ⟨-, hmem⟩ := hiff p hp
  rw [Function.comp_apply] at hpcalls
  rw [hpcalls] at hmem
  exact ⟨p, hp, (hmem "fetch").1 (by decide), fun hparse => absurd ((hmem "parse").2 hparse) (by decide)⟩

def greeting : String := "def greet(user):\n    return f\"Hello \x7bname_of(user)\x7d\"\n"

theorem extract_greeting :
    ∃ e t, extract greeting "pkg/file" = .ok e ∧ e.functions.map (·.calls) = [[]] ∧
      parse? greeting = some t ∧ ∃ p ∈ t.children.flatMap functionsAt, Calls isDefinition p.2 "name_of" := by
  obtain ⟨t, ht, hextract, hcalls⟩ := exists_extract_of_calls
    (show (parse? greeting).map (fun t => (declarations "pkg/file" t).functions.map (·.calls)) = some [[]] by
      decide +kernel)
  have hcalled : (parse? greeting).map (fun t =>
      decide (∃ p ∈ t.children.flatMap functionsAt, "name_of" ∈ namesCalled isDefinition p.2)) = some true := by
    decide +kernel
  rw [ht, Option.map_some, Option.some.injEq, decide_eq_true_iff] at hcalled
  obtain ⟨p, hp, hname⟩ := hcalled
  exact ⟨_, t, hextract, hcalls, ht, p, hp, mem_namesCalled_iff.1 hname⟩

end Demarcation.Python
