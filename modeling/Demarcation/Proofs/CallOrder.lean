import Mathlib.Data.List.Nodup
import Demarcation.Language.PythonDeclarations
import Demarcation.Language.Strict.Declarations
import Demarcation.Proofs.Grouping
import Demarcation.Proofs.Levels

/-!
The order in which the calls and tables of a Python function are listed. Syntax trees are visited in the order of the
text, abstract syntax trees level by level (`visit_eq_levels`). So the two readers list the same names for a function,
but not always in the same order (`calls_perm`, `Strict.calls_eq_iff_inDepthOrder`).
-/

namespace Demarcation

namespace Grammar.Tree

variable {κ : Type} (stop : Tree κ → Bool)

mutual

def outline : Tree κ → List (Tree κ)
  | node k l s n cs => node k l s n cs :: if stop (node k l s n cs) then [] else outlines cs

def outlines : List (Tree κ) → List (Tree κ)
  | [] => []
  | t :: ts => outline t ++ outlines ts

end

theorem outlines_append (ts us : List (Tree κ)) : outlines stop (ts ++ us) = outlines stop ts ++ outlines stop us := by
  induction ts with
  | nil => rfl
  | cons t ts ih => rw [List.cons_append, outlines, outlines, ih, List.append_assoc]

theorem outline_eq (t : Tree κ) : outline stop t = t :: outlines stop (if stop t then [] else t.children) := by
  cases t with
  | node k l s n cs =>
    rw [outline, children]
    split
    · rfl
    · rfl

theorem visit_eq_outlines (ts : List (Tree κ)) : visit stop ts = outlines stop ts := by
  induction ts using visit.induct stop with
  | case1 => rw [visit, outlines]
  | case2 t pending ih =>
    rw [dite_eq_ite] at ih
    rw [visit, ih, outlines, outlines_append, outline_eq, List.cons_append]

end Grammar.Tree

namespace Python.Strict.Node

variable (stop : Node → Bool)

mutual

def outline : Node → List Node
  | node s cs => node s cs :: if stop (node s cs) then [] else outlines cs

def outlines : List Node → List Node
  | [] => []
  | t :: ts => outline t ++ outlines ts

end

theorem outlines_append (ts us : List Node) : outlines stop (ts ++ us) = outlines stop ts ++ outlines stop us := by
  induction ts with
  | nil => rfl
  | cons t ts ih => rw [List.cons_append, outlines, outlines, ih, List.append_assoc]

theorem outline_eq (t : Node) : outline stop t = t :: outlines stop (if stop t then [] else t.children) := by
  cases t with
  | node s cs =>
    rw [outline, children]
    split
    · rfl
    · rfl

theorem visit_perm_outlines (ts : List Node) : (visit stop ts).Perm (outlines stop ts) := by
  induction ts using visit.induct stop with
  | case1 => rw [visit, outlines]
  | case2 t pending ih =>
    rw [visit, outlines, outline_eq, List.cons_append]
    rw [outlines_append] at ih
    exact (ih.trans List.perm_append_comm).cons t

def openChildren (t : Node) : List Node := if stop t then [] else t.children

def level : Nat → List Node → List Node
  | 0, ts => ts
  | n + 1, ts => level n (ts.flatMap (openChildren stop))

theorem visit_append (ts us : List Node) :
    visit stop (ts ++ us) = ts ++ visit stop (us ++ ts.flatMap (openChildren stop)) := by
  induction ts generalizing us with
  | nil => rw [List.nil_append, List.nil_append, List.flatMap_nil, List.append_nil]
  | cons t ts ih =>
    rw [List.cons_append, List.cons_append, visit, List.append_assoc, ih, List.flatMap_cons, List.append_assoc,
      openChildren]

theorem countAll_openChildren (t : Node) : countAll (openChildren stop t) < t.count := by
  rw [openChildren, count_eq]
  split
  · exact Nat.succ_pos _
  · exact Nat.lt_succ_self _

theorem length_add_countAll_le (ts : List Node) :
    ts.length + countAll (ts.flatMap (openChildren stop)) ≤ countAll ts := by
  induction ts with
  | nil => exact Nat.le_refl _
  | cons t ts ih =>
    have ht := countAll_openChildren stop t
    rw [List.flatMap_cons, countAll_append, countAll, List.length_cons]
    omega

theorem levels_succ (n : Nat) (ts : List Node) :
    ((List.range (n + 1)).flatMap fun depth => level stop depth ts) =
      ts ++ (List.range n).flatMap fun depth => level stop depth (ts.flatMap (openChildren stop)) := by
  rw [List.range_succ_eq_map, List.flatMap_cons, List.flatMap_map]
  rfl

theorem visit_eq_levels {n : Nat} {ts : List Node} (h : countAll ts ≤ n) :
    visit stop ts = (List.range n).flatMap fun depth => level stop depth ts := by
  -- The children of a level wait behind it (`visit_append`), so the levels are read one after the other.
  induction n generalizing ts with
  | zero =>
    have hlength := length_add_countAll_le stop ts
    obtain rfl : ts = [] := List.length_eq_zero_iff.1 (by omega)
    rw [visit]
    rfl
  | succ n ih =>
    have hlength := length_add_countAll_le stop ts
    have hvisit := visit_append stop ts []
    rw [List.append_nil, List.nil_append] at hvisit
    rw [hvisit, levels_succ]
    cases ts with
    | nil =>
      have hempty : countAll [] ≤ n := Nat.zero_le n
      rw [List.flatMap_nil, ih hempty]
    | cons t ts =>
      rw [List.length_cons] at hlength
      rw [ih (by omega)]

mutual

def withDepth (depth : Nat) : Node → List (Nat × Node)
  | node s cs => (depth, node s cs) :: if stop (node s cs) then [] else allWithDepth (depth + 1) cs

def allWithDepth (depth : Nat) : List Node → List (Nat × Node)
  | [] => []
  | t :: ts => withDepth depth t ++ allWithDepth depth ts

end

theorem withDepth_eq (depth : Nat) (t : Node) :
    withDepth stop depth t = (depth, t) :: allWithDepth stop (depth + 1) (openChildren stop t) := by
  cases t with
  | node s cs =>
    rw [withDepth, openChildren, children]
    split
    · rfl
    · rfl

theorem allWithDepth_append (depth : Nat) (ts us : List Node) :
    allWithDepth stop depth (ts ++ us) = allWithDepth stop depth ts ++ allWithDepth stop depth us := by
  induction ts with
  | nil => rfl
  | cons t ts ih => rw [List.cons_append, allWithDepth, allWithDepth, ih, List.append_assoc]

mutual

theorem map_snd_withDepth (depth : Nat) : ∀ t, (withDepth stop depth t).map (·.2) = outline stop t
  | node s cs => by
    rw [withDepth, outline, List.map_cons, apply_ite (List.map _), map_snd_allWithDepth (depth + 1) cs]
    rfl

theorem map_snd_allWithDepth (depth : Nat) : ∀ ts, (allWithDepth stop depth ts).map (·.2) = outlines stop ts
  | [] => rfl
  | t :: ts => by
    rw [allWithDepth, outlines, List.map_append, map_snd_withDepth depth t, map_snd_allWithDepth depth ts]

end

mutual

theorem depth_bounds_withDepth (depth : Nat) : ∀ t, ∀ p ∈ withDepth stop depth t, depth ≤ p.1 ∧ p.1 < depth + count t
  | node s cs => by
    rw [withDepth, count, List.forall_mem_cons]
    refine ⟨by simp, fun p hp => ?_⟩
    split at hp
    · exact absurd hp List.not_mem_nil
    · have := depth_bounds_allWithDepth (depth + 1) cs p hp
      omega

theorem depth_bounds_allWithDepth (depth : Nat) :
    ∀ ts, ∀ p ∈ allWithDepth stop depth ts, depth ≤ p.1 ∧ p.1 < depth + countAll ts
  | [] => List.forall_mem_nil _
  | t :: ts => by
    rw [allWithDepth, countAll, List.forall_mem_append]
    refine ⟨fun p hp => ?_, fun p hp => ?_⟩
    · have := depth_bounds_withDepth depth t p hp
      omega
    · have := depth_bounds_allWithDepth depth ts p hp
      omega

end

theorem filter_allWithDepth_zero (depth : Nat) (ts : List Node) :
    (allWithDepth stop depth ts).filter (·.1 == depth) = ts.map (depth, ·) := by
  induction ts with
  | nil => rfl
  | cons t ts ih =>
    have hdeeper : (allWithDepth stop (depth + 1) (openChildren stop t)).filter (·.1 == depth) = [] := by
      rw [List.filter_eq_nil_iff]
      intro p hp
      have := (depth_bounds_allWithDepth stop (depth + 1) _ p hp).1
      simp only [beq_iff_eq]
      omega
    rw [allWithDepth, withDepth_eq, List.filter_append, List.filter_cons_of_pos (by simp), hdeeper, ih]
    rfl

theorem filter_allWithDepth_succ (depth n : Nat) (ts : List Node) :
    (allWithDepth stop depth ts).filter (·.1 == depth + (n + 1)) =
      (allWithDepth stop (depth + 1) (ts.flatMap (openChildren stop))).filter (·.1 == depth + (n + 1)) := by
  induction ts with
  | nil => rfl
  | cons t ts ih =>
    rw [allWithDepth, withDepth_eq, List.filter_append, List.filter_cons_of_neg (by simp), ih, List.flatMap_cons,
      allWithDepth_append, List.filter_append]

theorem level_eq (depth n : Nat) (ts : List Node) :
    level stop n ts = ((allWithDepth stop depth ts).filter (·.1 == depth + n)).map (·.2) := by
  induction n generalizing depth ts with
  | zero =>
    rw [Nat.add_zero, filter_allWithDepth_zero, List.map_map]
    exact (List.map_id ts).symm
  | succ n ih => rw [level, filter_allWithDepth_succ, ih (depth + 1), Nat.add_right_comm, Nat.add_assoc]

end Python.Strict.Node

namespace Python

def bodyOutline (t : Tree) : List Tree :=
  (t.child? .block).toList.flatMap fun body =>
    (Grammar.Tree.outlines (fun t => isDefinition t || t.kind == .string)
      (afterDocumentation body.children)).filter (!isDefinition ·)

def Strict.bodyOutline (f : Strict.Node.Function) : List Strict.Node :=
  (Node.outlines isDefinition (afterDocumentation f.body)).filter (!isDefinition ·)

def Strict.bodyLevels (f : Strict.Node.Function) : List Strict.Node :=
  let statements := afterDocumentation f.body
  ((List.range (Node.countAll statements)).flatMap fun depth =>
    Node.level isDefinition depth statements).filter (!isDefinition ·)

theorem bodyNodes_eq (t : Tree) : (t.child? .block).toList.flatMap bodyNodes = bodyOutline t := by
  rw [bodyOutline]
  congr 1
  funext body
  rw [bodyNodes, Grammar.Tree.visit_eq_outlines]

theorem Strict.bodyNodes_eq (f : Strict.Node.Function) : Strict.bodyNodes f.body = bodyLevels f := by
  rw [bodyNodes, bodyLevels, Node.visit_eq_levels isDefinition (Nat.le_refl _)]

theorem Strict.bodyNodes_perm (f : Strict.Node.Function) : (Strict.bodyNodes f.body).Perm (bodyOutline f) :=
  (Node.visit_perm_outlines isDefinition _).filter _

def Strict.callsWithDepth (f : Strict.Node.Function) : List (Nat × String) :=
  (Node.allWithDepth isDefinition 0 (afterDocumentation f.body)).filterMap fun p => (calledName? p.2).map (p.1, ·)

def Strict.InDepthOrder (f : Strict.Node.Function) : Prop := (callsWithDepth f).Pairwise fun c d => c.1 ≤ d.1

namespace Strict

variable {f : Node.Function}

theorem calledName?_of_isDefinition {t : Node} (h : isDefinition t = true) : calledName? t = none := by
  rw [calledName?.eq_def]
  split
  · simp [isDefinition, Node.function?, Node.class?] at h
  · rfl

theorem filterMap_filter_not_isDefinition (ts : List Node) :
    (ts.filter (!isDefinition ·)).filterMap calledName? = ts.filterMap calledName? := by
  rw [List.filterMap_filter]
  congr 1
  funext t
  cases hdefinition : isDefinition t with
  | true => simp [calledName?_of_isDefinition hdefinition]
  | false => rfl

theorem map_snd_callsWithDepth (f : Node.Function) :
    (callsWithDepth f).map (·.2) = (bodyOutline f).filterMap calledName? := by
  rw [bodyOutline, filterMap_filter_not_isDefinition, ← Node.map_snd_allWithDepth isDefinition 0, List.filterMap_map,
    callsWithDepth, List.map_filterMap]
  congr 1
  funext p
  cases h : calledName? p.2 <;> simp [h]

theorem filterMap_bodyLevels (f : Node.Function) :
    (bodyLevels f).filterMap calledName? =
      (byLevel (Node.countAll (afterDocumentation f.body)) (callsWithDepth f)).map (·.2) := by
  rw [bodyLevels, filterMap_filter_not_isDefinition, List.filterMap_flatMap, byLevel, List.map_flatMap]
  refine List.flatMap_congr fun depth _ => ?_
  rw [Node.level_eq isDefinition 0, Nat.zero_add, callsWithDepth, List.filterMap_map, List.filterMap_filter,
    List.filter_filterMap, List.map_filterMap]
  congr 1
  funext p
  cases hname : calledName? p.2 with
  | none => simp [hname]
  | some name => by_cases hdepth : p.1 = depth <;> simp [hname, hdepth, Option.filter]

theorem depth_lt_of_mem_callsWithDepth {p : Nat × String} (hp : p ∈ callsWithDepth f) :
    p.1 < Node.countAll (afterDocumentation f.body) := by
  obtain ⟨q, hq, hp⟩ := List.mem_filterMap.1 hp
  obtain ⟨name, -, rfl⟩ := Option.map_eq_some_iff.1 hp
  simpa using (Node.depth_bounds_allWithDepth isDefinition 0 _ q hq).2

end Strict

def calledNames (t : Tree) : List String := (bodyOutline t).filterMap calledName?

def namedTables (t : Tree) : List String := (bodyOutline t).flatMap tablesAt

def Strict.calledNames (f : Strict.Node.Function) : List String := (bodyOutline f).filterMap calledName?

def Strict.namedTables (f : Strict.Node.Function) : List String := (bodyOutline f).flatMap tablesAt

section

variable (file : String) (owner : Option String)

theorem functionOf_calls (t : Tree) : (functionOf file owner t).calls = distinctNames (calledNames t) := by
  rw [calledNames, ← bodyNodes_eq]
  rfl

theorem functionOf_tables (t : Tree) : (functionOf file owner t).tables = distinctNames (namedTables t) := by
  rw [namedTables, ← bodyNodes_eq]
  rfl

theorem Strict.functionOf_calls (f : Strict.Node.Function) :
    (Strict.functionOf file owner f).calls = distinctNames ((bodyLevels f).filterMap calledName?) := by
  rw [← bodyNodes_eq]
  rfl

theorem Strict.functionOf_tables (f : Strict.Node.Function) :
    (Strict.functionOf file owner f).tables = distinctNames ((bodyNodes f.body).flatMap tablesAt) := rfl

variable {t : Tree} {f : Strict.Node.Function}

theorem calls_perm (h : (calledNames t).Perm (Strict.calledNames f)) :
    (functionOf file owner t).calls.Perm (Strict.functionOf file owner f).calls := by
  rw [functionOf_calls, Strict.functionOf_calls, ← Strict.bodyNodes_eq]
  exact perm_distinctNames (h.trans ((Strict.bodyNodes_perm f).filterMap _).symm)

theorem tables_perm (h : (namedTables t).Perm (Strict.namedTables f)) :
    (functionOf file owner t).tables.Perm (Strict.functionOf file owner f).tables := by
  rw [functionOf_tables, Strict.functionOf_tables]
  exact perm_distinctNames (h.trans ((Strict.bodyNodes_perm f).flatMap_right _).symm)

theorem Strict.calls_of_inDepthOrder (h : InDepthOrder f) :
    (Strict.functionOf file owner f).calls = distinctNames (calledNames f) := by
  rw [functionOf_calls, filterMap_bodyLevels, byLevel_eq_self (fun _ => depth_lt_of_mem_callsWithDepth) h,
    map_snd_callsWithDepth, calledNames]

theorem Strict.empty_notMem_calledNames (f : Strict.Node.Function) : "" ∉ calledNames f := by
  intro hmem
  obtain ⟨n, -, hn⟩ := List.mem_filterMap.1 hmem
  rw [calledName?.eq_def] at hn
  split at hn
  · simpa using (Option.filter_eq_some_iff.1 hn).2
  · cases hn

theorem Strict.calls_eq_iff_inDepthOrder (hnodup : (calledNames f).Nodup) :
    (Strict.functionOf file owner f).calls = distinctNames (calledNames f) ↔ InDepthOrder f := by
  have hlevels : ∀ p ∈ callsWithDepth f, p.1 < Node.countAll (afterDocumentation f.body) :=
    fun _ => depth_lt_of_mem_callsWithDepth
  have hperm : ((bodyLevels f).filterMap calledName?).Perm (calledNames f) := by
    rw [filterMap_bodyLevels, calledNames, ← map_snd_callsWithDepth]
    exact (byLevel_perm hlevels).map _
  -- All names are distinct, so dropping repetitions changes neither list, and they differ where their orders do.
  have hempty : "" ∉ (bodyLevels f).filterMap calledName? := fun h => empty_notMem_calledNames f (hperm.mem_iff.1 h)
  rw [functionOf_calls, distinctNames_of_nodup (hperm.nodup_iff.2 hnodup) hempty,
    distinctNames_of_nodup hnodup (empty_notMem_calledNames f), filterMap_bodyLevels, calledNames,
    ← map_snd_callsWithDepth]
  rw [calledNames, ← map_snd_callsWithDepth] at hnodup
  exact byLevel_eq_self_iff hlevels hnodup

end

end Python

end Demarcation
