import Demarcation.Boundary

namespace Demarcation

variable {R : Type} [Scalar R]

namespace Markdown

def cell (s : String) : String := String.ofList (s.toList.flatMap fun c => if c = '|' then ['\\', '|'] else [c])

def code (file : String) : String := "\x60" ++ file ++ "\x60"

def percent (x : R) : String := Scalar.percent 1 x ++ "%"

def section? (title : String) (items : List String) : List String :=
  if items.isEmpty then [] else ["## " ++ title, ""] ++ items ++ [""]

def summary (r : Report R) : List String := [
  s!"- Files scanned: {r.filesScanned}",
  s!"- Files analyzed: {r.filesAnalyzed}",
  s!"- Declarations: {r.nodeCount}",
  s!"- Boundaries: {r.boundaries.length}",
  "- Overall confidence: " ++ percent r.metrics.overall,
  "- Cluster quality: " ++ percent r.analysis.quality,
  ""]

def row (b : Boundary R) : String :=
  let name := if b.declared then b.name ++ " (declared)" else b.name
  let tables := cell (", ".intercalate b.tables)
  s!"| {cell name} | {percent b.confidence} | {b.files.length} | {b.elementCount} | " ++
    (if tables.isEmpty then "-" else tables) ++ " |"

def details (b : Boundary R) : List String :=
  ["### " ++ b.name, "", b.description, ""] ++ b.reasoning.map ("- " ++ ·) ++ [""]
    ++ b.files.map (fun f => "  - " ++ code f) ++ [""]

def overview (bs : List (Boundary R)) : List String :=
  if bs.isEmpty then []
  else
    ["## Boundaries", "", "| Name | Confidence | Files | Elements | Tables |",
      "|------|-----------:|------:|---------:|--------|"] ++ bs.map row ++ [""] ++ bs.flatMap details

def advice (r : Recommendation) : String :=
  let names := ", ".intercalate r.boundaries
  s!"- **{r.kind.name}** ({r.difficulty.name}) {names}: {r.reason}. {r.benefit}."

end Markdown

open Markdown in
def Report.toMarkdown (r : Report R) : String :=
  "\n".intercalate (["# Module Boundary Report", ""]
    ++ (if r.isPartial then ["> **Partial result:** discovery stopped at its time limit.", ""] else [])
    ++ summary r ++ overview r.boundaries
    ++ section? "Recommendations" (r.recommendations.map advice)
    ++ section? "Orphaned files" (r.analysis.orphans.map fun f => "- " ++ code f))

end Demarcation
