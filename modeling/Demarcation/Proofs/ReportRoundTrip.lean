import Demarcation.Boundary.Document
import Demarcation.Discovery
import Demarcation.Proofs.ExactRounding
import Demarcation.Proofs.Selection

namespace Demarcation

namespace Document

variable {R α β : Type} {entries : List (String × Document R)} {key : String}

theorem mapM_written {write : α → Document R} {read : Document R → Except Fault β} {f : α → β} {xs : List α}
    (h : ∀ x ∈ xs, read (write x) = .ok (f x)) : (xs.map write).mapM read = .ok (xs.map f) := by
  induction xs with
  | nil => rfl
  | cons x xs ih =>
    have hx : read (write x) = .ok (f x) := h x List.mem_cons_self
    have hxs := ih fun y hy => h y (List.mem_cons_of_mem x hy)
    rw [List.map_cons, List.mapM_cons, hx, hxs]
    rfl

theorem asTexts_texts (names : List String) : (texts names : Document R).asTexts = .ok names := by
  have h : (names.map (.text : String → Document R)).mapM asText = .ok (names.map id) := mapM_written fun _ _ => rfl
  rwa [List.map_id] at h

theorem textsOf_table {names : List String} (h : find? key entries = some (texts names)) :
    (table entries).textsOf key = .ok names := by
  have hvalue : (table entries).getD key (.list []) = .ok (texts names) := by
    rw [getD, h]
    rfl
  rw [textsOf, hvalue, ok_bind, asTexts_texts]

theorem itemsOf_table {write : α → Document R} {read : Document R → Except Fault β} {f : α → β} {xs : List α}
    (h : find? key entries = some (.list (xs.map write))) (hread : ∀ x ∈ xs, read (write x) = .ok (f x)) :
    (table entries).itemsOf key read = .ok (xs.map f) := by
  have hvalue : (table entries).getD key (.list []) = .ok (.list (xs.map write)) := by
    rw [getD, h]
    rfl
  rw [itemsOf, hvalue, ok_bind]
  exact mapM_written hread

theorem asShare_percent {R : Type} [Scalar R] (x : R) :
    (percent x).asShare = .ok (Scalar.roundTo 6 (Scalar.roundTo 2 (x * Scalar.ofNat 100) / Scalar.ofNat 100)) := rfl

theorem percent_roundTo {x : Rat} (h : IsShare x) : percent (Scalar.roundTo 4 x) = percent x :=
  congrArg Document.number (percentage_roundTo h)

end Document

open Document

section Percentages

variable {R : Type}

def Metrics.shares (m : Metrics R) : List R := [m.overall, m.semantic, m.structural, m.clarity, m.database]

def Report.percentages (r : Report R) : List R :=
  r.boundaries.map (·.confidence) ++ r.metrics.shares ++ [r.analysis.quality]

def Boundary.mapConfidence (f : R → R) (b : Boundary R) : Boundary R := { b with confidence := f b.confidence }

def Analysis.mapQuality (f : R → R) (a : Analysis R) : Analysis R := { a with quality := f a.quality }

def Report.mapPercentages (f : R → R) (r : Report R) : Report R := { r with
  boundaries := r.boundaries.map (Boundary.mapConfidence f)
  metrics := r.metrics.map f
  analysis := r.analysis.mapQuality f }

variable [Scalar R]

structure Report.HasShares (r : Report R) : Prop where
  percentages : ∀ x ∈ r.percentages, IsShare x
  strengths : ∀ o ∈ r.analysis.overlaps, IsShare o.strength

end Percentages

section Records

theorem Boundary.ofDocument_toDocument {b : Boundary Rat} (h : IsShare b.confidence) :
    Boundary.ofDocument b.toDocument = .ok (b.mapConfidence (Scalar.roundTo 4)) := by
  have hname : b.toDocument.get "name" = .ok (.text b.name) := rfl
  have hdescription : b.toDocument.getD "description" (.text "") = .ok (.text b.description) := rfl
  have hconfidence : b.toDocument.getD "confidence" (.int 0) = .ok (percent b.confidence) := rfl
  have hfiles : b.toDocument.textsOf "files" = .ok b.files := textsOf_table rfl
  have hstructs : b.toDocument.textsOf "structs" = .ok b.structs := textsOf_table rfl
  have hinterfaces : b.toDocument.textsOf "interfaces" = .ok b.interfaces := textsOf_table rfl
  have hfunctions : b.toDocument.textsOf "functions" = .ok b.functions := textsOf_table rfl
  have htables : b.toDocument.textsOf "database_tables" = .ok b.tables := textsOf_table rfl
  have hreasoning : b.toDocument.textsOf "reasoning" = .ok b.reasoning := textsOf_table rfl
  have hkeywords : b.toDocument.textsOf "semantic_keywords" = .ok b.keywords := textsOf_table rfl
  have hdependencies : b.toDocument.textsOf "dependency_clusters" = .ok b.dependencies := textsOf_table rfl
  have hdeclared : b.toDocument.getD "user_declared" (.bool false) = .ok (.bool b.declared) := rfl
  simp only [Boundary.ofDocument, hname, hdescription, hconfidence, hfiles, hstructs, hinterfaces, hfunctions,
    htables, hreasoning, hkeywords, hdependencies, hdeclared, ok_bind, asText, asShare_percent,
    share_of_percentage h]
  rfl

theorem Metrics.ofDocument_toDocument {m : Metrics Rat} (h : ∀ x ∈ m.shares, IsShare x) :
    Metrics.ofDocument m.toDocument = .ok (m.map (Scalar.roundTo 4)) := by
  have hoverall : m.toDocument.getD "overall_confidence" (.int 0) = .ok (percent m.overall) := rfl
  have hsemantic : m.toDocument.getD "semantic_consistency" (.int 0) = .ok (percent m.semantic) := rfl
  have hstructural : m.toDocument.getD "structural_coherence" (.int 0) = .ok (percent m.structural) := rfl
  have hclarity : m.toDocument.getD "dependency_clarity" (.int 0) = .ok (percent m.clarity) := rfl
  have hdatabase : m.toDocument.getD "database_alignment" (.int 0) = .ok (percent m.database) := rfl
  simp only [Metrics.ofDocument, hoverall, hsemantic, hstructural, hclarity, hdatabase, ok_bind, asShare_percent]
  have hread : ∀ x ∈ m.shares,
      Scalar.share (Scalar.roundTo 6 (Scalar.roundTo 2 (x * Scalar.ofNat 100) / Scalar.ofNat 100)) =
        Scalar.roundTo 4 x := fun x hx => share_of_percentage (h x hx)
  simp only [Metrics.shares, List.forall_mem_cons] at hread
  obtain ⟨ho, hs, ht, hc, hd, -⟩ := hread
  simp only [Metrics.map, ho, hs, ht, hc, hd]
  rfl

theorem Overlap.Kind.ofName?_name (k : Overlap.Kind) : Overlap.Kind.ofName? k.name = .ok k := by
  cases k <;> rfl

theorem Overlap.ofDocument_toDocument {o : Overlap Rat} (h : IsShare o.strength) :
    Overlap.ofDocument o.toDocument = .ok o := by
  have hfirst : o.toDocument.get "boundary1" = .ok (.text o.first) := rfl
  have hsecond : o.toDocument.get "boundary2" = .ok (.text o.second) := rfl
  have hkind : o.toDocument.get "overlap_type" = .ok (.text o.kind.name) := rfl
  have hstrength : o.toDocument.get "overlap_strength" = .ok (.number o.strength) := rfl
  have hsuggestion : o.toDocument.get "resolution_suggestion" = .ok (.text o.suggestion) := rfl
  simp only [Overlap.ofDocument, hfirst, hsecond, hkind, hstrength, hsuggestion, ok_bind, shown,
    Overlap.Kind.ofName?_name, asText, number?, share_of_isShare h]
  rfl

theorem Analysis.ofDocument_toDocument {a : Analysis Rat} (hquality : IsShare a.quality)
    (hstrengths : ∀ o ∈ a.overlaps, IsShare o.strength) :
    Analysis.ofDocument a.toDocument = .ok (a.mapQuality (Scalar.roundTo 4)) := by
  have hcount : a.toDocument.getD "optimal_cluster_count" (.int 0) = .ok (.int a.clusterCount) := rfl
  have hscore : a.toDocument.getD "cluster_quality_score" (.int 0) = .ok (percent a.quality) := rfl
  have hoverlaps : a.toDocument.itemsOf "boundary_overlaps" Overlap.ofDocument = .ok (a.overlaps.map id) :=
    itemsOf_table rfl fun o ho => Overlap.ofDocument_toDocument (hstrengths o ho)
  have horphans : a.toDocument.textsOf "orphaned_files" = .ok a.orphans := textsOf_table rfl
  simp only [Analysis.ofDocument, hcount, hscore, hoverlaps, horphans, ok_bind, asInt, asShare_percent,
    share_of_percentage hquality, List.map_id]
  rfl

theorem Recommendation.Kind.ofName?_name (k : Recommendation.Kind) : Recommendation.Kind.ofName? k.name = .ok k := by
  cases k <;> rfl

theorem Difficulty.ofName?_name (d : Difficulty) : Difficulty.ofName? d.name = .ok d := by
  cases d <;> rfl

theorem Recommendation.ofDocument_toDocument {R : Type} [Scalar R] (r : Recommendation) :
    Recommendation.ofDocument (r.toDocument : Document R) = .ok r := by
  have hkind : (r.toDocument : Document R).get "type" = .ok (.text r.kind.name) := rfl
  have hboundaries : (r.toDocument : Document R).textsOf "boundaries" = .ok r.boundaries := textsOf_table rfl
  have hreason : (r.toDocument : Document R).getD "reason" (.text "") = .ok (.text r.reason) := rfl
  have hbenefit : (r.toDocument : Document R).getD "expected_benefit" (.text "") = .ok (.text r.benefit) := rfl
  have hdifficulty : (r.toDocument : Document R).getD "implementation_difficulty" (.text "medium") =
      .ok (.text r.difficulty.name) := rfl
  simp only [Recommendation.ofDocument, hkind, hboundaries, hreason, hbenefit, hdifficulty, ok_bind, asText, shown,
    Recommendation.Kind.ofName?_name, Difficulty.ofName?_name]
  rfl

end Records

namespace Report

variable {r : Report Rat}

theorem ofDocument_toDocument (h : r.HasShares) :
    Report.ofDocument r.toDocument = .ok (r.mapPercentages (Scalar.roundTo 4)) := by
  have hshares := h.percentages
  simp only [percentages, List.forall_mem_append, List.forall_mem_map, List.forall_mem_singleton] at hshares
  obtain ⟨⟨hconfidence, hmetrics⟩, hquality⟩ := hshares
  have hboundaries : r.toDocument.itemsOf "discovered_boundaries" Boundary.ofDocument =
      .ok (r.boundaries.map (Boundary.mapConfidence (Scalar.roundTo 4))) :=
    itemsOf_table rfl fun b hb => Boundary.ofDocument_toDocument (hconfidence b hb)
  have hwritten : r.toDocument.getD "confidence_metrics" (.table []) = .ok r.metrics.toDocument := rfl
  have hanalysis : r.toDocument.getD "clustering_analysis" (.table []) = .ok r.analysis.toDocument := rfl
  have hadvice : r.toDocument.itemsOf "recommendations" Recommendation.ofDocument = .ok (r.recommendations.map id) :=
    itemsOf_table rfl fun a _ => Recommendation.ofDocument_toDocument a
  have hstatistics : r.toDocument.getD "statistics" (.table []) = .ok (.table [
    ("files_scanned", .int r.filesScanned), ("files_analyzed", .int r.filesAnalyzed),
    ("node_count", .int r.nodeCount), ("partial", .bool r.isPartial)]) := rfl
  simp only [Report.ofDocument, hboundaries, hwritten, hanalysis, hadvice, hstatistics, ok_bind,
    Metrics.ofDocument_toDocument hmetrics, Analysis.ofDocument_toDocument hquality h.strengths, List.map_id]
  rfl

theorem toDocument_mapPercentages (h : r.HasShares) :
    (r.mapPercentages (Scalar.roundTo 4)).toDocument = r.toDocument := by
  have hpercent : ∀ x ∈ r.percentages, percent (Scalar.roundTo 4 x) = percent x :=
    fun x hx => percent_roundTo (h.percentages x hx)
  simp only [percentages, Metrics.shares, List.forall_mem_append, List.forall_mem_map, List.forall_mem_cons] at hpercent
  obtain ⟨⟨hconfidence, ho, hs, ht, hc, hd, -⟩, hq, -⟩ := hpercent
  have hboundaries : (r.boundaries.map (Boundary.mapConfidence (Scalar.roundTo 4))).map Boundary.toDocument =
      r.boundaries.map Boundary.toDocument := by
    rw [List.map_map]
    refine List.map_congr_left fun b hb => ?_
    simp only [Function.comp, Boundary.toDocument, Boundary.mapConfidence, hconfidence b hb]
  have hmetrics : (r.metrics.map (Scalar.roundTo 4)).toDocument = r.metrics.toDocument := by
    simp only [Metrics.toDocument, Metrics.map, ho, hs, ht, hc, hd]
  have hanalysis : (r.analysis.mapQuality (Scalar.roundTo 4)).toDocument = r.analysis.toDocument := by
    simp only [Analysis.toDocument, Analysis.mapQuality, hq]
  simp only [toDocument, mapPercentages, hboundaries, hmetrics, hanalysis]

/-- A report is read as it was written, apart from its percentages, which come back as shares rounded to four decimals;
it is then written in the same way again. -/
theorem roundTrip (h : r.HasShares) :
    ∃ r', Report.ofDocument r.toDocument = .ok r' ∧ r'.toDocument = r.toDocument ∧
      r' = r.mapPercentages (Scalar.roundTo 4) ∧
      ∀ x ∈ r.percentages, ∃ n : Nat,
        Scalar.roundTo 4 x = n / (10000 : Nat) ∧ |(n : Rat) / (10000 : Nat) - x| ≤ 1 / (20000 : Nat) := by
  refine ⟨r.mapPercentages (Scalar.roundTo 4), ofDocument_toDocument h, toDocument_mapPercentages h, rfl, ?_⟩
  intro x hx
  exact exists_nearest_roundTo_four (h.percentages x hx)

def ofShop : Report Rat where
  boundaries := [{
    name := "shop"
    description := "Orders and carts"
    confidence := (123450 : Nat) / (1000000 : Nat)
    files := ["shop/cart.go", "shop/order.go"]
    structs := ["Cart"]
    reasoning := ["Shared directory"] }]
  metrics := ⟨(123450 : Nat) / (1000000 : Nat), (0 : Nat) / (1000000 : Nat), (1000000 : Nat) / (1000000 : Nat),
    (666667 : Nat) / (1000000 : Nat), (500050 : Nat) / (1000000 : Nat)⟩
  analysis := {
    clusterCount := 1
    quality := (541679 : Nat) / (1000000 : Nat)
    overlaps := [⟨"shop", "cart", .dependency, (333333 : Nat) / (1000000 : Nat), "Introduce an interface"⟩]
    orphans := ["main.go"] }
  recommendations := [⟨.moveFiles, ["shop", "cart"], "1 file(s) belong to several boundaries", "", .low⟩]
  filesScanned := 4
  filesAnalyzed := 3
  nodeCount := 9

theorem hasShares_ofShop : ofShop.HasShares := by
  have hshare : ∀ k : Nat, k ≤ 1000000 → IsShare ((k : Rat) / (1000000 : Nat)) :=
    fun k hk => ⟨_, (share_millionths hk).symm⟩
  refine ⟨?_, ?_⟩
  · simp only [percentages, Metrics.shares, ofShop, List.map_cons, List.map_nil, List.cons_append, List.nil_append,
      List.forall_mem_cons]
    exact ⟨hshare _ (by decide), hshare _ (by decide), hshare _ (by decide), hshare _ (by decide),
      hshare _ (by decide), hshare _ (by decide), hshare _ (by decide), nofun⟩
  · simp only [ofShop, List.forall_mem_singleton]
    exact hshare _ (by decide)

theorem roundTrip_ofShop :
    ofShop.HasShares ∧ ∃ r', Report.ofDocument ofShop.toDocument = .ok r' ∧ r'.toDocument = ofShop.toDocument ∧
      r'.boundaries.map (·.confidence) = [((1234 : Nat) : Rat) / (10000 : Nat)] ∧
      r'.analysis.overlaps.map (·.strength) = [((333333 : Nat) : Rat) / (1000000 : Nat)] := by
  obtain ⟨r', hread, hwritten, rfl, -⟩ := roundTrip hasShares_ofShop
  refine ⟨hasShares_ofShop, _, hread, hwritten, ?_, rfl⟩
  exact congrArg (fun x => [x]) (roundTo_div (by decide) (by decide))

end Report

section Analyses

theorem isShare_strength {R : Type} [Scalar R] {boundaries : List (Boundary R)} {o : Overlap R}
    (h : o ∈ Boundary.overlaps boundaries) : IsShare o.strength := by
  rw [Boundary.overlaps, List.mem_flatMap] at h
  obtain ⟨p, -, ho⟩ := h
  simp only [Boundary.overlapsOf, List.mem_append, List.mem_ite_nil_right, List.mem_ite_nil_left,
    List.mem_singleton] at ho
  obtain (⟨-, rfl⟩ | ⟨-, rfl⟩) | ⟨-, rfl⟩ := ho
  · exact ⟨_, rfl⟩
  · exact ⟨_, rfl⟩
  · exact ⟨_, rfl⟩

theorem isShare_zero : IsShare (Scalar.ofNat 0 : Rat) := by
  refine ⟨((0 : Nat) : Rat) / (1000000 : Nat), ?_⟩
  rw [share_millionths (by decide), Scalar.ofNat_rat, Nat.cast_zero, zero_div]

theorem isShare_of_mem_zero {x : Rat} (h : x ∈ (Metrics.zero : Metrics Rat).shares) : IsShare x := by
  simp only [Metrics.shares, Metrics.zero, List.mem_cons, List.not_mem_nil, or_false, or_self] at h
  rw [h]
  exact isShare_zero

theorem isShare_of_mem_map_share {x : Rat} {m : Metrics Rat} (h : x ∈ (m.map Scalar.share).shares) : IsShare x := by
  have hmap : (m.map Scalar.share).shares = m.shares.map Scalar.share := rfl
  rw [hmap] at h
  obtain ⟨y, -, rfl⟩ := List.mem_map.1 h
  exact ⟨y, rfl⟩

theorem isShare_of_mem_ofSelection {pairs : List (Candidate Rat × Boundary Rat)} {x : Rat}
    (h : x ∈ (Metrics.ofSelection pairs).shares) : IsShare x := by
  rw [Metrics.ofSelection] at h
  split at h
  · exact isShare_of_mem_zero h
  · exact isShare_of_mem_map_share h

theorem Report.hasShares_stopped (scanned analyzed nodes : Nat) :
    (Report.stopped scanned analyzed nodes : Report Rat).HasShares := by
  refine ⟨?_, nofun⟩
  intro x hx
  rw [percentages, List.mem_append, List.mem_append] at hx
  obtain (hx | hx) | hx := hx
  · cases hx
  · exact isShare_of_mem_zero hx
  · rw [List.mem_singleton.1 hx]
    exact isShare_zero

theorem Selection.hasShares_report (inv : Inventory) (threshold : Rat) (candidates : List (Candidate Rat))
    (scanned analyzed : Nat) :
    (Selection.report ⟨Candidate.select inv threshold candidates⟩ inv scanned analyzed).HasShares := by
  refine ⟨?_, fun o ho => isShare_strength ho⟩
  intro x hx
  rw [Report.percentages, List.mem_append, List.mem_append] at hx
  obtain (hx | hx) | hx := hx
  · obtain ⟨b, hb, rfl⟩ := List.mem_map.1 hx
    obtain ⟨p, hp, rfl⟩ := List.mem_map.1 hb
    obtain ⟨-, confidence, hboundary⟩ := Candidate.mem_of_mem_select hp
    rw [hboundary]
    exact ⟨confidence, rfl⟩
  · exact isShare_of_mem_ofSelection hx
  · rw [List.mem_singleton.1 hx]
    exact ⟨_, rfl⟩

section Runs

variable {d : Discovery Rat} {t : FileTree} {r : Report Rat} {warnings : List Warning}

theorem Deadline.hasShares_of_unlessExpired {deadline : Deadline Rat} {clock : Clock Rat} {scanned analyzed nodes : Nat}
    {ws : List Warning} {next : Clock Rat → Except Fault (Report Rat × List Warning)}
    (h : deadline.unlessExpired clock (.stopped scanned analyzed nodes, ws) next = .ok (r, warnings))
    (hnext : ∀ later, next later = .ok (r, warnings) → r.HasShares) : r.HasShares := by
  obtain hstop | ⟨later, hgoes⟩ := deadline.unlessExpired_eq_or clock (.stopped scanned analyzed nodes, ws) next
  · have hreport : Report.stopped scanned analyzed nodes = r := congrArg Prod.fst (Except.ok.inj (hstop.symm.trans h))
    rw [← hreport]
    exact Report.hasShares_stopped _ _ _
  · exact hnext later (hgoes.symm.trans h)

theorem Discovery.hasShares_stages {deadline : Deadline Rat} {clock : Clock Rat} {p : Prepared}
    (h : d.stages t deadline clock p = .ok (r, warnings)) : r.HasShares := by
  unfold stages at h
  -- The report is partial if the time is over before one of the four stages, and complete otherwise.
  refine Deadline.hasShares_of_unlessExpired h fun later h => ?_
  refine Deadline.hasShares_of_unlessExpired h fun later h => ?_
  obtain ⟨options, -, h⟩ := exists_of_bind_eq_ok h
  refine Deadline.hasShares_of_unlessExpired h fun later h => ?_
  obtain ⟨mergeLimit, -, h⟩ := exists_of_bind_eq_ok h
  refine Deadline.hasShares_of_unlessExpired h fun later h => ?_
  obtain ⟨confidence, -, h⟩ := exists_of_bind_eq_ok h
  have hreport : _ = r := congrArg Prod.fst (Except.ok.inj h)
  rw [← hreport]
  exact Selection.hasShares_report _ _ _ _ _

theorem Discovery.hasShares_run (h : d.run t = .ok (r, warnings)) : r.HasShares := by
  obtain ⟨p, -, h⟩ := exists_of_bind_eq_ok h
  obtain ⟨limit, -, h⟩ := exists_of_bind_eq_ok h
  exact hasShares_stages h

end Runs

end Analyses

end Demarcation
