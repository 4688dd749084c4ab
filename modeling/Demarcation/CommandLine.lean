import Demarcation.Boundary.Document
import Demarcation.Discovery
import Demarcation.Document.Json
import Demarcation.Report.Graph
import Demarcation.Report.Markdown

namespace Demarcation.CommandLine

open Text

structure Outcome where
  exitCode : Nat := 0
  output : String := ""
  tree : FileTree
  uncaught : Option Fault := none

def Outcome.misuse (t : FileTree) : Outcome := { exitCode := 2, tree := t }

def Outcome.failure (t : FileTree) (fault : Fault) (output : String := "") : Outcome :=
  { exitCode := 1, output, tree := t, uncaught := some fault }

structure OptionSpec where
  names : List String
  hasValue : Bool := true

structure Given where
  options : List (String × String) := []
  arguments : List String := []

namespace Given

def last? (g : Given) (name : String) : Option String := (g.options.reverse).lookup name

def all (g : Given) (name : String) : List String := (g.options.filter (·.1 == name)).map (·.2)

def has (g : Given) (name : String) : Bool := (g.last? name).isSome

def parse? (specs : List OptionSpec) : Given → List String → Option Given
  | g, [] => some g
  | g, "--" :: words => some { g with arguments := g.arguments ++ words }
  | g, word :: words =>
    let find (name : String) : Option OptionSpec := specs.find? (·.names.contains name)
    let add (s : OptionSpec) (value : String) : Given :=
      { g with options := g.options ++ [(s.names.headD "", value)] }
    if word.startsWith "--" then
      match splitFirst '=' 1 word.toList with
      | [name, value] =>
        match find (String.ofList name) with
        | some s => if s.hasValue then parse? specs (add s (String.ofList value)) words else none
        | none => none
      | _ => long find add word words
    else if word.startsWith "-" && word ≠ "-" then
      match find (String.ofList (word.toList.take 2)) with
      | none => none
      | some s =>
        if !s.hasValue then (if word.length = 2 then parse? specs (add s "") words else none)
        else if word.length = 2 then
          match words with
          | [] => none
          | value :: words => parse? specs (add s value) words
        else parse? specs (add s (String.ofList (word.toList.drop 2))) words
    else parse? specs { g with arguments := g.arguments ++ [word] } words
where
  long (find : String → Option OptionSpec) (add : OptionSpec → String → Given) (word : String)
      (words : List String) : Option Given :=
    match find word with
    | none => none
    | some s =>
      if !s.hasValue then parse? specs (add s "") words
      else
        match words with
        | [] => none
        | value :: words => parse? specs (add s value) words

end Given

abbrev Number := Float

def positive? (text : Option String) : Option (Document Number) :=
  match text with
  | none => some .null
  | some s => (Decimal.readInt? s).bind fun i => if i < 1 then none else some (.int i)

def bounded? (high : Option Number) (text : Option String) : Option (Document Number) :=
  match text with
  | none => some .null
  | some s =>
    (Decimal.readNumeral? s).bind fun n =>
      let x : Number := Scalar.ofNumeral n
      if x < 0 || high.any (· < x) then none else some (.number x)

def patterns (g : Given) (name : String) : Document Number :=
  match g.all name with
  | [] => .null
  | ps => .texts ps

def settingsFor (t : FileTree) (home root : String) (given : Settings.Layer Number) :
    Except Outcome (Settings Number) :=
  match (Settings.load t home (some root) given).1 with
  | .ok s => .ok s
  | .error fault => .error (if isValueFault fault then .misuse t else .failure t fault)
where
  isValueFault : Fault → Bool
    | .noSuchPosition | .notTable | .isDirectory | .notDirectory | .fileMissing | .fileExists => false
    | _ => true

def table (title : String) (header : List String) (rows : List (List String)) : List String :=
  title :: (header :: rows).map (" │ ".intercalate ·)

def tableNames (tables : List String) : String := if tables.isEmpty then "-" else ", ".intercalate tables

def boundaryRow (b : Boundary Number) : List String := [
  b.name ++ (if b.declared then " (declared)" else ""),
  Markdown.percent b.confidence,
  toString b.files.length,
  toString b.elementCount,
  tableNames b.tables]

def reportLines (r : Report Number) : List String :=
  ["Boundary Discovery",
    s!"{Scalar.percent 0 r.metrics.overall}% overall confidence  · {r.boundaries.length} boundaries  "
      ++ s!"· {r.filesAnalyzed}/{r.filesScanned} files analyzed"]
  ++ (if r.isPartial then ["⚠️  Discovery hit its time limit; the result is partial."] else [])
  ++ if r.boundaries.isEmpty then ["No module boundaries found."]
    else
      table "Discovered Boundaries" ["Boundary", "Confidence", "Files", "Elements", "Tables"]
        (r.boundaries.map boundaryRow)
      ++ (if r.recommendations.isEmpty then []
        else "📋 Recommendations" :: r.recommendations.map fun a =>
          "  • " ++ a.kind.name ++ " " ++ ", ".intercalate a.boundaries ++ ": " ++ a.reason)
      ++ (if r.analysis.orphans.isEmpty then []
        else [s!"{r.analysis.orphans.length} file(s) belong to no boundary."])

def joinLines (lines : List String) : String := String.join (lines.map (· ++ "\n"))

def reportFor (path : String) (r : Report Number) : String :=
  let kind := lower (suffix path)
  if kind = ".md" ∨ kind = ".markdown" then r.toMarkdown
  else if kind = ".dot" ∨ kind = ".gv" then r.toGraph
  else Document.Json.write r.toDocument ++ "\n"

def writeInto (t : FileTree) (path text : String) : Except Fault FileTree :=
  let place := FileTree.resolve path
  match t.at? place.dropLast with
  | none => .error (if t.isBelowFile place then .notDirectory else .fileMissing)
  | some (.file _) => .error .notDirectory
  | some .directory => t.write path text.toUTF8.toList

def outputForms : List String := ["table", "json", "markdown"]

def discoverOptions : List OptionSpec := [
  ⟨["--include", "-i"], true⟩, ⟨["--exclude", "-e"], true⟩, ⟨["--boundaries", "-b"], true⟩, ⟨["--sampling"], true⟩,
  ⟨["--max-files"], true⟩, ⟨["--min-confidence"], true⟩, ⟨["--workers"], true⟩, ⟨["--timeout"], true⟩,
  ⟨["--output", "-o"], true⟩, ⟨["--format", "-f"], true⟩, ⟨["--verbose"], false⟩]

def discoverLayer? (g : Given) : Option (Settings.Layer Number) := do
  let maxFiles ← positive? (g.last? "--max-files")
  let confidence ← bounded? (some 1) (g.last? "--min-confidence")
  let workers ← positive? (g.last? "--workers")
  let timeout ← bounded? none (g.last? "--timeout")
  let sampling := match g.last? "--sampling" with
    | some s => .text s
    | none => .null
  return [
    ("include", patterns g "--include"), ("exclude", patterns g "--exclude"), ("sampling", sampling),
    ("max_files", maxFiles), ("min_confidence", confidence), ("workers", workers), ("timeout_seconds", timeout)]

def discover (t : FileTree) (home : String) (words : List String) : Outcome :=
  match Given.parse? discoverOptions {} words with
  | some g =>
    match g.arguments, discoverLayer? g with
    | [root], some layer => perform g root layer
    | _, _ => .misuse t
  | none => .misuse t
where
  perform (g : Given) (root : String) (layer : Settings.Layer Number) : Outcome :=
    let form := (g.last? "--format").getD "table"
    if !outputForms.contains form then .misuse t
    else
      match settingsFor t home root layer with
      | .error outcome => outcome
      | .ok settings =>
        let discovery : Discovery Number := {
          root, settings, boundaryFile := g.last? "--boundaries", strategies := Strategy.all Number
          clock := .ofReadings [] }
        match discovery.run t with
        | .error fault => if isExpected fault then .misuse t else .failure t fault
        | .ok (report, _) => print g form report
  isExpected : Fault → Bool
    | .rootMissing _ | .rootNotDirectory _ | .boundaryFileUnreadable | .boundaryFileWithoutModules _
    | .moduleNotTable _ _ | .moduleWithoutPaths _ _ | .moduleDescriptionNotText _ _ => true
    | _ => false
  print (g : Given) (form : String) (report : Report Number) : Outcome :=
    let text :=
      if form = "json" then Document.Json.write report.toDocument ++ "\n"
      else if form = "markdown" then report.toMarkdown ++ "\n"
      else joinLines (reportLines report)
    match g.last? "--output" with
    | none => { output := text, tree := t }
    | some path =>
      match writeInto t path (reportFor path report) with
      | .error fault => .failure t fault text
      | .ok t =>
        let note := if form = "table" then s!"Report written to {normalPath path}\n" else ""
        { output := text ++ note, tree := t }

def scanOptions : List OptionSpec := [
  ⟨["--include", "-i"], true⟩, ⟨["--exclude", "-e"], true⟩, ⟨["--facts"], false⟩]

def fileRow (path : String) (e : Extraction) : List String := [
  path, toString e.structs.length, toString e.interfaces.length, toString e.functions.length,
  tableNames (SortedSet.ofList (e.accesses.map (·.table))).toList]

def factRows (extractions : List Extraction) : List (List String) :=
  let inv := Inventory.build (extractions.flatMap (·.declarations))
  (inv.dependencyFacts.filter fun f => f.tie = .reference ∨ f.tie = .call).map fun f =>
    [f.source, f.target, f.tie.name, Scalar.fixed 1 (f.tie.weight Number)]

def scan (t : FileTree) (home : String) (words : List String) : Outcome :=
  match Given.parse? scanOptions {} words with
  | some g =>
    match g.arguments with
    | [root] => perform g root
    | _ => .misuse t
  | none => .misuse t
where
  perform (g : Given) (root : String) : Outcome :=
    match settingsFor t home root [("include", patterns g "--include"), ("exclude", patterns g "--exclude")] with
    | .error outcome => outcome
    | .ok settings =>
      match Scan.checkRoot t root with
      | .error _ => .misuse t
      | .ok () =>
        match sampled settings root with
        | .error fault => .failure t fault
        | .ok (_, []) => { output := "No supported source files found.\n", tree := t }
        | .ok (count, files) =>
          let extractions := files.map fun f => (Source.extract t root f).1
          let listing := table s!"Source files ({files.length} of {count} analyzed)"
            ["File", "Structs", "Interfaces", "Functions", "Tables"] (List.zipWith fileRow files extractions)
          let rows := factRows extractions
          let facts := if g.has "--facts" then
              table s!"Dependency facts ({rows.length})" ["Source", "Target", "Kind", "Weight"] rows
            else []
          { output := joinLines (listing ++ facts), tree := t }
  sampled (settings : Settings Number) (root : String) : Except Fault (Nat × List String) := do
    let scanned := (← Scan.ofSettings settings).files t root
    return (scanned.length, ← Sampling.sample settings (fun p => t.fileSize (root ++ "/" ++ p)) scanned)

def settingRow (entry : String × Document Number) : Except Fault (List String) :=
  match entry.2 with
  | .list items => do
    let text := ", ".intercalate (← items.mapM (·.asText))
    return [entry.1, if text.isEmpty then "(none)" else text]
  | d => .ok [entry.1, d.shown]

def configShow (t : FileTree) (home : String) (words : List String) : Outcome :=
  match Given.parse? [] {} words with
  | some ⟨_, []⟩ =>
    match (Settings.load t home none []).1 >>= fun s : Settings Number => s.entries.mapM settingRow with
    | .error fault => .failure t fault
    | .ok rows =>
      let lines := table "Discovery Settings" ["Setting", "Value"] rows
      { output := joinLines (lines ++ [s!"Config file: {Settings.userFile home}"]), tree := t }
  | _ => .misuse t

def configSet (t : FileTree) (home : String) (words : List String) : Outcome :=
  match Given.parse? [] {} words with
  | some ⟨_, [key, raw]⟩ =>
    let (t, saved) := Settings.change Number t home key raw
    match saved with
    | .error fault => if settingsFor.isValueFault fault then .misuse t else .failure t fault
    | .ok (value, saved) =>
      if saved.saved then { output := s!"Set {key} = {value.inner}\n", tree := t }
      else { exitCode := 1, tree := t }
  | _ => .misuse t

def versionText : String := "codebound v0.3.0\n"

def run (t : FileTree) (home : String) (words : List String) : Outcome :=
  match words with
  | "--version" :: _ | "-V" :: _ => { output := versionText, tree := t }
  | "discover" :: words => discover t home words
  | "scan" :: words => scan t home words
  | "config" :: "show" :: words => configShow t home words
  | "config" :: "set" :: words => configSet t home words
  | _ => .misuse t

end Demarcation.CommandLine
