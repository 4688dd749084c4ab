import Demarcation.Proofs.GraphSyntax

namespace Demarcation

class PlainScalar (R : Type) [Scalar R] : Prop where
  isPlain_fixed (places : Nat) (x : R) : Graph.IsPlain (Scalar.fixed places x).toList

section Numbers

open Decimal

theorem isPlain_fixedText (negative : Bool) (n places : Nat) : Graph.IsPlain (fixedText negative n places).toList := by
  have hdigits (width : Nat) : Graph.IsPlain (digits width n) := by
    apply Graph.isPlain_of_isDigit
    intro c hc
    rw [digits, List.mem_append] at hc
    obtain hc | hc := hc
    · rw [List.eq_of_mem_replicate hc]
      decide
    · exact Nat.isDigit_of_mem_toDigits (by decide) (by decide) hc
  have htext : Graph.IsPlain (if places = 0 then (digits (places + 1) n).take ((digits (places + 1) n).length - places) else
      (digits (places + 1) n).take ((digits (places + 1) n).length - places) ++
        '.' :: (digits (places + 1) n).drop ((digits (places + 1) n).length - places)) := by
    intro c hc
    split at hc
    · exact hdigits _ c (List.mem_of_mem_take hc)
    · obtain hc | hc := List.mem_append.1 hc
      · exact hdigits _ c (List.mem_of_mem_take hc)
      · obtain rfl | hc := List.mem_cons.1 hc
        · decide
        · exact hdigits _ c (List.mem_of_mem_drop hc)
  rw [fixedText, String.toList_ofList]
  split
  · exact List.forall_mem_cons.2 ⟨by decide, htext⟩
  · exact htext

instance : PlainScalar Rat where
  isPlain_fixed _ _ := isPlain_fixedText _ _ _

instance : PlainScalar Float where
  isPlain_fixed places x := by
    change Graph.IsPlain (fixedFloat places x).toList
    rw [fixedFloat]
    split
    · split
      · decide
      · split <;> decide
    · exact isPlain_fixedText _ _ _

end Numbers

namespace Graph

section Lines

def unlines : List String → String
  | [] => ""
  | line :: lines => line ++ "\n" ++ unlines lines

variable {p q : Prop} {lines lines' : List String} {line : String} {ts us : List Token}

theorem unlines_append (lines lines' : List String) : unlines (lines ++ lines') = unlines lines ++ unlines lines' := by
  induction lines with
  | nil => rw [List.nil_append, unlines, String.empty_append]
  | cons line lines ih => rw [List.cons_append, unlines, unlines, ih, String.append_assoc, String.append_assoc,
    String.append_assoc]

theorem intercalate_newline (lines : List String) (last : String) :
    "\n".intercalate (lines ++ [last]) = unlines lines ++ last := by
  induction lines with
  | nil => rw [unlines, String.empty_append]; rfl
  | cons line lines ih =>
    obtain ⟨next, rest, hrest⟩ := List.exists_cons_of_ne_nil (l := lines ++ [last]) (by simp)
    rw [unlines, String.append_assoc, ← ih, List.cons_append, hrest]
    apply String.toList_inj.1
    simp only [String.toList_intercalate, String.toList_append, List.map_cons, List.intercalate_cons_cons,
      List.append_assoc]

theorem reads_nil : Reads True (unlines []) [] := by simp [Reads, unlines]

theorem Reads.cons_line (h : Reads p line ts) (h' : Reads q (unlines lines) us) :
    Reads (p ∧ q) (unlines (line :: lines)) (ts ++ us) := by
  have hbreak : Reads True "\n" [] := by simp [Reads, tokens?, isBlank]
  have hline := (h.append hbreak).append h'
  rw [List.append_nil] at hline
  exact hline.congr (by simp)

theorem Reads.append_lines (h : Reads p (unlines lines) ts) (h' : Reads q (unlines lines') us) :
    Reads (p ∧ q) (unlines (lines ++ lines')) (ts ++ us) := by
  rw [unlines_append]
  exact h.append h'

theorem reads_flatMap {α : Type} {p : α → Prop} {lines : α → List String} {tokens : α → List Token} {l : List α}
    (h : ∀ a ∈ l, Reads (p a) (unlines (lines a)) (tokens a)) :
    Reads (∀ a ∈ l, p a) (unlines (l.flatMap lines)) (l.flatMap tokens) := by
  induction l with
  | nil => exact reads_nil.congr (by simp)
  | cons a l ih =>
    have ih := ih fun b hb => h b (List.mem_cons_of_mem a hb)
    exact ((h a List.mem_cons_self).append_lines ih).congr (by simp)

theorem reads_map {α : Type} {p : α → Prop} {line : α → String} {tokens : α → List Token} {l : List α}
    (h : ∀ a ∈ l, Reads (p a) (line a) (tokens a)) :
    Reads (∀ a ∈ l, p a) (unlines (l.map line)) (l.flatMap tokens) := by
  induction l with
  | nil => exact reads_nil.congr (by simp)
  | cons a l ih =>
    have ih := ih fun b hb => h b (List.mem_cons_of_mem a hb)
    exact ((h a List.mem_cons_self).cons_line ih).congr (by simp)

end Lines

section Clusters

variable {R : Type} [Scalar R]

def clusterName (index : Nat) : String := "cluster_" ++ toString index

def labelOf (b : Boundary R) : String := b.name ++ " (" ++ Scalar.percent 0 b.confidence ++ "%)"

def fileItem (index : Nat) (file : String) : Item :=
  .node (.quoted (anchor index ++ ":" ++ file)) [(.plain "label", .quoted file)]

def clusterStatement (index : Nat) (b : Boundary R) : Statement :=
  .subgraph (.plain (clusterName index)) (
    .set (.plain "label") (.quoted (labelOf b)) ::
    .node (.quoted (anchor index)) [(.plain "shape", .plain "folder"), (.plain "label", .quoted b.name)] ::
    b.files.map (fileItem index))

theorem reads_indent : Reads True "    " [] := by simp [Reads, tokens?, isBlank]

theorem reads_end : Reads True "];" [.mark ']', .mark ';'] := by simp [Reads, tokens?, isBlank, isMark]

theorem paired_anchored_iff {index : Nat} {file : String} : Paired (anchor index ++ ":" ++ file) ↔ Paired file := by
  apply paired_append_iff
  · exact isPlain_append (isPlain_anchor index) (by decide)
  · simp

theorem reads_fileNode (index : Nat) (file : String) :
    Reads (Paired file) (fileNode index file) (fileItem index file).tokens := by
  have hlabel : Reads True " [label=" [.mark '[', .name (.plain "label"), .mark '='] := by
    simp [Reads, tokens?, isBlank, isMark, isNameChar]
  have hline : Reads _ (fileNode index file) (fileItem index file).tokens :=
    (((reads_indent.append (reads_quote _)).append hlabel).append (reads_quote _)).append reads_end
  exact hline.congr (by rw [paired_anchored_iff]; simp)

theorem reads_label (text : String) :
    Reads (Paired text) ("    label=" ++ quote text ++ ";") (Item.set (.plain "label") (.quoted text)).tokens := by
  have hlabel : Reads True "    label=" [.name (.plain "label"), .mark '='] := by
    simp [Reads, tokens?, isBlank, isMark, isNameChar]
  have hend : Reads True ";" [.mark ';'] := by simp [Reads, tokens?, isBlank, isMark]
  have hline : Reads _ _ (Item.set (.plain "label") (.quoted text)).tokens :=
    (hlabel.append (reads_quote _)).append hend
  exact hline.congr (by simp)

theorem paired_labelOf [PlainScalar R] {b : Boundary R} (h : Paired b.name) : Paired (labelOf b) := by
  have hassoc : labelOf b = b.name ++ (" (" ++ Scalar.percent 0 b.confidence ++ "%)") := by
    rw [labelOf, String.append_assoc, String.append_assoc, String.append_assoc]
  rw [hassoc]
  apply h.append
  · exact isPlain_append (isPlain_append (by decide) (PlainScalar.isPlain_fixed _ _)) (by decide)
  · simp

theorem reads_opening (index : Nat) : Reads True (s!"  subgraph cluster_{index} " ++ "\x7b")
    [.name (.plain "subgraph"), .name (.plain (clusterName index)), .mark '\x7b'] := by
  have hsubgraph : Reads True "  subgraph " [.name (.plain "subgraph")] := by
    simp [Reads, tokens?, isBlank, isMark, isNameChar]
  have hmark : Reads True (" " ++ "\x7b") [.mark '\x7b'] := by simp [Reads, tokens?, isBlank, isMark]
  have hname : Reads True (clusterName index ++ (" " ++ "\x7b")) [.name (.plain (clusterName index)), .mark '\x7b'] := by
    have hcluster : "cluster_".toList.all isNameChar = true := by decide
    apply hmark.name rfl
    · decide
    · intro c hc
      rw [clusterName, String.toList_append, List.mem_append] at hc
      obtain hc | hc := hc
      · exact List.all_eq_true.1 hcluster c hc
      · have hdigit := isDigit_of_mem_toString c hc
        simp [isNameChar, Char.isAlphanum, hdigit]
    · simp [clusterName]
  have htext : s!"  subgraph cluster_{index} " ++ "\x7b" = "  subgraph " ++ (clusterName index ++ (" " ++ "\x7b")) := by
    apply String.toList_inj.1
    simp only [clusterName, String.toList_append, List.append_assoc]
    rfl
  rw [htext]
  exact (hsubgraph.append hname).congr (by simp)

theorem reads_folder (index : Nat) (name : String) :
    Reads (Paired name) ("    " ++ quote (anchor index) ++ " [shape=folder, label=" ++ quote name ++ "];")
      (Item.node (.quoted (anchor index)) [(.plain "shape", .plain "folder"), (.plain "label", .quoted name)]).tokens := by
  have hshape : Reads True " [shape=folder, label=" [.mark '[', .name (.plain "shape"), .mark '=', .name (.plain "folder"),
      .mark ',', .name (.plain "label"), .mark '='] := by
    simp [Reads, tokens?, isBlank, isMark, isNameChar]
  have hline : Reads _ _
      (Item.node (.quoted (anchor index)) [(.plain "shape", .plain "folder"), (.plain "label", .quoted name)]).tokens :=
    (((reads_indent.append (reads_quote _)).append hshape).append (reads_quote _)).append reads_end
  exact hline.congr (by simp [paired_of_isPlain (isPlain_anchor index)])

theorem reads_cluster [PlainScalar R] (index : Nat) (b : Boundary R) :
    Reads (Paired b.name ∧ ∀ file ∈ b.files, Paired file) (unlines (cluster index b)) (clusterStatement index b).tokens := by
  have hhead := (reads_opening index).cons_line ((reads_label (labelOf b)).cons_line ((reads_folder index b.name).cons_line
    reads_nil))
  have hfiles : Reads (∀ file ∈ b.files, Paired file) (unlines (b.files.map (fileNode index))) _ :=
    reads_map fun file _ => reads_fileNode index file
  have hclosing : Reads True "  \x7d" [.mark '\x7d'] := by simp [Reads, tokens?, isBlank, isMark]
  have hlines := (hhead.append_lines hfiles).append_lines (hclosing.cons_line reads_nil)
  have hlabel : Paired b.name → Paired (labelOf b) := paired_labelOf
  refine (hlines.of_eq ?_).congr (by tauto)
  simp only [clusterStatement, Statement.tokens, List.flatMap_cons, List.flatMap_map, List.append_nil, List.append_assoc,
    List.cons_append, List.nil_append]

end Clusters

section Links

variable {R : Type} [Scalar R]

structure Link (R : Type) where
  source : String
  target : String
  strength : R

def link? (boundaries : List (Boundary R)) (o : Overlap R) : Option (Link R) := do
  guard (o.kind = .dependency)
  let source ← anchorOf? boundaries o.first
  let target ← anchorOf? boundaries o.second
  return ⟨source, target, o.strength⟩

def links (r : Report R) : List (Link R) := r.analysis.overlaps.filterMap (link? r.boundaries)

def Link.line (l : Link R) : String :=
  s!"  \"{l.source}\" -> \"{l.target}\" [style=dashed, label=\"{Scalar.fixed 2 l.strength}\"];"

def Link.item (l : Link R) : Item :=
  .edge (.quoted l.source) (.quoted l.target)
    [(.plain "style", .plain "dashed"), (.plain "label", .quoted (Scalar.fixed 2 l.strength))]

variable {boundaries : List (Boundary R)} {o : Overlap R} {l : Link R}

theorem edge?_eq (boundaries : List (Boundary R)) (o : Overlap R) :
    edge? boundaries o = (link? boundaries o).map Link.line := by
  unfold edge? link?
  by_cases hkind : o.kind = .dependency
  · rw [guard, if_pos hkind]
    cases anchorOf? boundaries o.first with
    | none => rfl
    | some source =>
      cases anchorOf? boundaries o.second with
      | none => rfl
      | some target => rfl
  · rw [guard, if_neg hkind]
    rfl

omit [Scalar R] in
theorem isPlain_of_anchorOf? {name a : String} (h : anchorOf? boundaries name = some a) : IsPlain a.toList := by
  obtain ⟨index, -, rfl⟩ := Option.map_eq_some_iff.1 h
  exact isPlain_anchor index

omit [Scalar R] in
theorem link?_eq_some_iff : link? boundaries o = some l ↔ o.kind = .dependency ∧
    anchorOf? boundaries o.first = some l.source ∧ anchorOf? boundaries o.second = some l.target ∧
      o.strength = l.strength := by
  obtain ⟨source, target, strength⟩ := l
  by_cases hkind : o.kind = .dependency
  · simp [link?, hkind, Option.bind_eq_some_iff]
  · simp [link?, hkind]

theorem reads_line [PlainScalar R] (hsource : IsPlain l.source.toList) (htarget : IsPlain l.target.toList) :
    Reads True l.line l.item.tokens := by
  have hfixed : IsPlain (Scalar.fixed 2 l.strength).toList := PlainScalar.isPlain_fixed _ _
  have hindent : Reads True "  " [] := by simp [Reads, tokens?, isBlank]
  have harrow : Reads True " -> " [.arrow] := by simp [Reads, tokens?, isBlank, isMark, isNameChar]
  have hstyle : Reads True " [style=dashed, label=" [.mark '[', .name (.plain "style"), .mark '=', .name (.plain "dashed"),
      .mark ',', .name (.plain "label"), .mark '='] := by
    simp [Reads, tokens?, isBlank, isMark, isNameChar]
  have hline : l.line = "  " ++ quote l.source ++ " -> " ++ quote l.target ++ " [style=dashed, label=" ++
      quote (Scalar.fixed 2 l.strength) ++ "];" := by
    rw [quote_of_isPlain hsource, quote_of_isPlain htarget, quote_of_isPlain hfixed]
    apply String.toList_inj.1
    simp only [Link.line, String.toList_append, List.append_assoc]
    rfl
  have hreads := ((((((hindent.append (reads_quote l.source)).append harrow).append (reads_quote l.target)).append
    hstyle).append (reads_quote (Scalar.fixed 2 l.strength))).append reads_end)
  rw [hline]
  refine (hreads.of_eq rfl).congr ?_
  simp [paired_of_isPlain hsource, paired_of_isPlain htarget, paired_of_isPlain hfixed]

def treeOf (r : Report R) : Tree where
  name := .plain "Boundaries"
  statements :=
    .item (.set (.plain "rankdir") (.plain "LR")) ::
    .item (.node (.plain "node") [(.plain "shape", .plain "box")]) ::
    (r.boundaries.zipIdx.map fun p => clusterStatement p.2 p.1) ++
      (links r).map fun l => .item l.item

theorem reads_head : Reads True (unlines ["digraph Boundaries \x7b", "  rankdir=LR;", "  node [shape=box];"])
    (.name (.plain "digraph") :: .name (.plain "Boundaries") :: .mark '\x7b' ::
      (Item.set (.plain "rankdir") (.plain "LR")).tokens ++
      (Item.node (.plain "node") [(.plain "shape", .plain "box")]).tokens) := by
  simp [Reads, unlines, tokens?, isBlank, isMark, isNameChar, Item.tokens, attributeTokens]

theorem toGraph_eq (r : Report R) : r.toGraph = "\n".intercalate (
    ["digraph Boundaries \x7b", "  rankdir=LR;", "  node [shape=box];"] ++
      (r.boundaries.zipIdx.flatMap fun p => cluster p.2 p.1) ++ (links r).map Link.line ++ ["\x7d"]) := by
  have hedges : r.analysis.overlaps.filterMap (edge? r.boundaries) = (links r).map Link.line := by
    rw [links, List.map_filterMap]
    exact List.filterMap_congr fun o _ => edge?_eq r.boundaries o
  rw [Report.toGraph, hedges]

theorem reads_clusters [PlainScalar R] (boundaries : List (Boundary R)) :
    Reads (∀ b ∈ boundaries, Paired b.name ∧ ∀ file ∈ b.files, Paired file)
      (unlines (boundaries.zipIdx.flatMap fun p => cluster p.2 p.1))
      (boundaries.zipIdx.flatMap fun p => (clusterStatement p.2 p.1).tokens) := by
  have hmem : (∀ b ∈ boundaries, Paired b.name ∧ ∀ file ∈ b.files, Paired file) ↔
      ∀ p ∈ boundaries.zipIdx, Paired p.1.name ∧ ∀ file ∈ p.1.files, Paired file := by
    conv_lhs => rw [← List.zipIdx_map_fst 0 boundaries]
    rw [List.forall_mem_map]
  rw [hmem]
  exact reads_flatMap fun p _ => reads_cluster p.2 p.1

theorem reads_links [PlainScalar R] (r : Report R) :
    Reads True (unlines ((links r).map Link.line)) ((links r).flatMap fun l => l.item.tokens) := by
  have hlines : Reads (∀ l ∈ links r, True) (unlines ((links r).map Link.line))
      ((links r).flatMap fun l => l.item.tokens) := by
    refine reads_map fun l hl => ?_
    obtain ⟨o, -, ho⟩ := List.mem_filterMap.1 hl
    obtain ⟨-, hsource, htarget, -⟩ := link?_eq_some_iff.1 ho
    exact reads_line (isPlain_of_anchorOf? hsource) (isPlain_of_anchorOf? htarget)
  exact hlines.congr (by simp)

theorem reads_toGraph [PlainScalar R] (r : Report R) :
    Reads (∀ b ∈ r.boundaries, Paired b.name ∧ ∀ file ∈ b.files, Paired file) r.toGraph (treeOf r).tokens := by
  have hend : Reads True "\x7d" [.mark '\x7d'] := by simp [Reads, tokens?, isBlank, isMark]
  have htext := ((reads_head.append_lines (reads_clusters r.boundaries)).append_lines (reads_links r)).append hend
  rw [toGraph_eq, intercalate_newline]
  refine (htext.of_eq ?_).congr (by simp)
  simp only [treeOf, Tree.tokens, Statement.tokens, List.flatMap_cons, List.flatMap_append, List.flatMap_map,
    List.append_assoc, List.cons_append]

/-- The string that is written for a text is read back as a whole if and only if the backslashes before each quotation mark
and at the end of the text come in pairs, and then its value is the text. The graph of a report is read as the tree of its
boundaries and overlaps if and only if this is so for all names and files in it, and then it is well formed. -/
theorem quotedStrings_read [PlainScalar R] :
    (∀ s rest, (∃ v, readString? ((quote s).toList ++ rest) = some (v, rest)) ↔ Paired s) ∧
    (∀ s rest, Paired s → readString? ((quote s).toList ++ rest) = some (s, rest)) ∧
    (∀ r : Report R, tokens? r.toGraph.toList = some (treeOf r).tokens ↔
      ∀ b ∈ r.boundaries, Paired b.name ∧ ∀ file ∈ b.files, Paired file) ∧
    ∀ r : Report R, (∀ b ∈ r.boundaries, Paired b.name ∧ ∀ file ∈ b.files, Paired file) → IsWellFormed r.toGraph := by
  refine ⟨fun s rest => ⟨?_, ?_⟩, fun s rest hs => readString?_of_paired hs rest, ?_, ?_⟩
  · rintro ⟨v, hread⟩
    exact paired_of_readString? hread
  · intro hs
    exact ⟨s, readString?_of_paired hs rest⟩
  · exact fun r => (reads_toGraph r).tokens?_eq_some_iff
  · exact fun r hr => ⟨treeOf r, (reads_toGraph r).tokens?_eq_some_iff.2 hr⟩

def quotedAndDivided : Report Rat where
  boundaries := [
    { name := "we\"ird", description := "", confidence := 1, files := ["api\\user.go", "a\"b\"c.go"] },
    { name := "\\\\\"", description := "", confidence := 1 / 2 }]
  metrics := .zero
  analysis := { quality := 1 }

theorem quotedStrings_read_quotedAndDivided :
    PlainScalar Rat ∧ IsWellFormed quotedAndDivided.toGraph := by
  have hpaired : ∀ b ∈ quotedAndDivided.boundaries, Paired b.name ∧ ∀ file ∈ b.files, Paired file := by decide +kernel
  exact ⟨inferInstance, (quotedStrings_read (R := Rat)).2.2.2 quotedAndDivided hpaired⟩

def backslashed : Report Rat where
  boundaries := [{ name := "store\\", description := "", confidence := 1 }]
  metrics := .zero
  analysis := { quality := 1 }

theorem not_isWellFormed_backslashed :
    readString? (quote "store\\").toList = none ∧ ¬IsWellFormed backslashed.toGraph := by
  refine ⟨by decide +kernel, ?_⟩
  rintro ⟨t, ht⟩
  -- the mark that ends the last string is read as part of it
  have hnone : tokens? backslashed.toGraph.toList = none := by decide +kernel
  rw [hnone] at ht
  cases ht

end Links

end Graph

end Demarcation
