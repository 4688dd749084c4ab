import Demarcation.Boundary
import Demarcation.Document

namespace Demarcation

variable {R : Type} [Scalar R]

namespace Document

def percent (x : R) : Document R := .number (Scalar.roundTo 2 (x * Scalar.ofNat 100))

def asShare (d : Document R) : Except Fault R := return Scalar.roundTo 6 ((← d.asNumber) / Scalar.ofNat 100)

def textsOf (d : Document R) (key : String) : Except Fault (List String) := do
  (← d.getD key (.list [])).asTexts

def itemsOf {α : Type} (d : Document R) (key : String) (read : Document R → Except Fault α) :
    Except Fault (List α) := do
  (← (← d.getD key (.list [])).items).mapM read

end Document

open Document

def Boundary.toDocument (b : Boundary R) : Document R := .table [
  ("name", .text b.name),
  ("description", .text b.description),
  ("confidence", percent b.confidence),
  ("files", texts b.files),
  ("structs", texts b.structs),
  ("interfaces", texts b.interfaces),
  ("functions", texts b.functions),
  ("database_tables", texts b.tables),
  ("reasoning", texts b.reasoning),
  ("semantic_keywords", texts b.keywords),
  ("dependency_clusters", texts b.dependencies),
  ("user_declared", .bool b.declared)]

def Boundary.ofDocument (d : Document R) : Except Fault (Boundary R) := do
  return {
    name := ← (← d.get "name").asText
    description := ← (← d.getD "description" (.text "")).asText
    confidence := Scalar.share (← (← d.getD "confidence" (.int 0)).asShare)
    files := ← d.textsOf "files"
    structs := ← d.textsOf "structs"
    interfaces := ← d.textsOf "interfaces"
    functions := ← d.textsOf "functions"
    tables := ← d.textsOf "database_tables"
    reasoning := ← d.textsOf "reasoning"
    keywords := ← d.textsOf "semantic_keywords"
    dependencies := ← d.textsOf "dependency_clusters"
    declared := (← d.getD "user_declared" (.bool false)).truth }

def Metrics.toDocument (m : Metrics R) : Document R := .table [
  ("overall_confidence", percent m.overall),
  ("semantic_consistency", percent m.semantic),
  ("structural_coherence", percent m.structural),
  ("dependency_clarity", percent m.clarity),
  ("database_alignment", percent m.database)]

def Metrics.ofDocument (d : Document R) : Except Fault (Metrics R) := do
  let share (key : String) : Except Fault R := do (← d.getD key (.int 0)).asShare
  let metrics : Metrics R := {
    overall := ← share "overall_confidence"
    semantic := ← share "semantic_consistency"
    structural := ← share "structural_coherence"
    clarity := ← share "dependency_clarity"
    database := ← share "database_alignment" }
  return metrics.map Scalar.share

def Overlap.toDocument (o : Overlap R) : Document R := .table [
  ("boundary1", .text o.first),
  ("boundary2", .text o.second),
  ("overlap_type", .text o.kind.name),
  ("overlap_strength", .number o.strength),
  ("resolution_suggestion", .text o.suggestion)]

def Overlap.ofDocument (d : Document R) : Except Fault (Overlap R) := do
  let first ← d.get "boundary1"
  let second ← d.get "boundary2"
  let kind ← d.get "overlap_type"
  let strength ← d.get "overlap_strength"
  let suggestion ← d.get "resolution_suggestion"
  let kind ← Overlap.Kind.ofName? kind.shown
  return {
    first := ← first.asText
    second := ← second.asText
    kind
    strength := Scalar.share (← strength.number?)
    suggestion := ← suggestion.asText }

def Analysis.toDocument (a : Analysis R) : Document R := .table [
  ("optimal_cluster_count", .int a.clusterCount),
  ("cluster_quality_score", percent a.quality),
  ("boundary_overlaps", .list (a.overlaps.map Overlap.toDocument)),
  ("orphaned_files", texts a.orphans)]

def Analysis.ofDocument (d : Document R) : Except Fault (Analysis R) := do
  return {
    clusterCount := ← (← d.getD "optimal_cluster_count" (.int 0)).asInt
    quality := Scalar.share (← (← d.getD "cluster_quality_score" (.int 0)).asShare)
    overlaps := ← d.itemsOf "boundary_overlaps" Overlap.ofDocument
    orphans := ← d.textsOf "orphaned_files" }

def Recommendation.toDocument (r : Recommendation) : Document R := .table [
  ("type", .text r.kind.name),
  ("boundaries", texts r.boundaries),
  ("reason", .text r.reason),
  ("expected_benefit", .text r.benefit),
  ("implementation_difficulty", .text r.difficulty.name)]

def Recommendation.ofDocument (d : Document R) : Except Fault Recommendation := do
  let kind ← d.get "type"
  let boundaries ← d.textsOf "boundaries"
  let reason ← (← d.getD "reason" (.text "")).asText
  let benefit ← (← d.getD "expected_benefit" (.text "")).asText
  let difficulty ← d.getD "implementation_difficulty" (.text "medium")
  return {
    kind := ← Recommendation.Kind.ofName? kind.shown
    boundaries
    reason
    benefit
    difficulty := ← Difficulty.ofName? difficulty.shown }

def Report.toDocument (r : Report R) : Document R := .table [
  ("discovered_boundaries", .list (r.boundaries.map Boundary.toDocument)),
  ("confidence_metrics", r.metrics.toDocument),
  ("clustering_analysis", r.analysis.toDocument),
  ("recommendations", .list (r.recommendations.map Recommendation.toDocument)),
  ("statistics", .table [
    ("files_scanned", .int r.filesScanned),
    ("files_analyzed", .int r.filesAnalyzed),
    ("node_count", .int r.nodeCount),
    ("partial", .bool r.isPartial)])]

def Report.ofDocument (d : Document R) : Except Fault (Report R) := do
  let statistics ← d.getD "statistics" (.table [])
  let count (key : String) : Except Fault Int := do (← statistics.getD key (.int 0)).asInt
  return {
    boundaries := ← d.itemsOf "discovered_boundaries" Boundary.ofDocument
    metrics := ← Metrics.ofDocument (← d.getD "confidence_metrics" (.table []))
    analysis := ← Analysis.ofDocument (← d.getD "clustering_analysis" (.table []))
    recommendations := ← d.itemsOf "recommendations" Recommendation.ofDocument
    filesScanned := ← count "files_scanned"
    filesAnalyzed := ← count "files_analyzed"
    nodeCount := ← count "node_count"
    isPartial := (← statistics.getD "partial" (.bool false)).truth }

end Demarcation
