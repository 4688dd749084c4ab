import Demarcation.Boundary

namespace Demarcation

variable {R : Type} [Scalar R]

namespace Graph

def escape (s : String) : String := String.ofList (s.toList.flatMap fun c => if c = '"' then ['\\', '"'] else [c])

def quote (s : String) : String := "\"" ++ escape s ++ "\""

def anchor (index : Nat) : String := s!"b{index}"

def anchorOf? (boundaries : List (Boundary R)) (name : String) : Option String :=
  (boundaries.findIdx? (·.name == name)).map anchor

def fileNode (index : Nat) (file : String) : String :=
  "    " ++ quote (anchor index ++ ":" ++ file) ++ " [label=" ++ quote file ++ "];"

def cluster (index : Nat) (b : Boundary R) : List String :=
  [s!"  subgraph cluster_{index} " ++ "\x7b",
    "    label=" ++ quote (b.name ++ " (" ++ Scalar.percent 0 b.confidence ++ "%)") ++ ";",
    "    " ++ quote (anchor index) ++ " [shape=folder, label=" ++ quote b.name ++ "];"]
    ++ b.files.map (fileNode index) ++ ["  \x7d"]

def edge? (boundaries : List (Boundary R)) (o : Overlap R) : Option String := do
  guard (o.kind = .dependency)
  let source ← anchorOf? boundaries o.first
  let target ← anchorOf? boundaries o.second
  return s!"  \"{source}\" -> \"{target}\" [style=dashed, label=\"{Scalar.fixed 2 o.strength}\"];"

end Graph

def Report.toGraph (r : Report R) : String :=
  "\n".intercalate (["digraph Boundaries \x7b", "  rankdir=LR;", "  node [shape=box];"]
    ++ (r.boundaries.zipIdx.flatMap fun p => Graph.cluster p.2 p.1)
    ++ r.analysis.overlaps.filterMap (Graph.edge? r.boundaries) ++ ["\x7d"])

end Demarcation
