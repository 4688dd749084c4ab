import Mathlib.Data.Option.Basic
import Demarcation.Proofs.Grouping
import Demarcation.TableAccess

namespace Demarcation

open Text

namespace TableAccess

variable {ts : List Char}

theorem takeWhile_append_cons {α : Type} {p : α → Bool} {a : α} (ha : p a = false) (xs ys : List α) :
    (xs ++ a :: ys).takeWhile p = xs.takeWhile p := by
  rw [List.takeWhile_append]
  split
  · next hlength =>
    have hall : xs.takeWhile p = xs := (List.takeWhile_prefix p).eq_of_length hlength
    simp [hall, ha]
  · rfl

theorem dropWord?_append {word : List Char} (hword : ';' ∉ word) (cs : List Char) :
    dropWord? word (cs ++ ';' :: ts) = (dropWord? word cs).map (· ++ ';' :: ts) := by
  induction word generalizing cs with
  | nil => rfl
  | cons w ws ih =>
    have hw : ¬ ';' = w := fun h => hword (h ▸ List.mem_cons_self)
    have hws : ';' ∉ ws := fun h => hword (List.mem_cons_of_mem w h)
    cases cs with
    | nil =>
      have hupper : ';'.toUpper = ';' := rfl
      simp [dropWord?, hw, hupper]
    | cons c cs =>
      rw [List.cons_append, dropWord?, dropWord?, ih hws]
      split
      · rfl
      · rfl

theorem dropExact?_append {word : List Char} (hword : ';' ∉ word) (cs : List Char) :
    dropExact? word (cs ++ ';' :: ts) = (dropExact? word cs).map (· ++ ';' :: ts) := by
  induction word generalizing cs with
  | nil => rfl
  | cons w ws ih =>
    have hw : ¬w = ';' := fun h => hword (h ▸ List.mem_cons_self)
    have hws : ';' ∉ ws := fun h => hword (List.mem_cons_of_mem w h)
    cases cs with
    | nil => simp [dropExact?, hw]
    | cons c cs =>
      rw [List.cons_append, dropExact?, dropExact?, ih hws]
      split
      · rfl
      · rfl

theorem dropBlanks_append (cs : List Char) : dropBlanks (cs ++ ';' :: ts) = dropBlanks cs ++ ';' :: ts := by
  have hblank : isBlank ';' = false := by decide
  simp [dropBlanks, List.dropWhile_append, hblank]

theorem dropBlanks?_append (cs : List Char) :
    dropBlanks? (cs ++ ';' :: ts) = (dropBlanks? cs).map (· ++ ';' :: ts) := by
  cases cs with
  | nil => rfl
  | cons c cs =>
    rw [List.cons_append, dropBlanks?, dropBlanks?, dropBlanks_append]
    split
    · rfl
    · rfl

theorem dropQuote_append (cs : List Char) : dropQuote (cs ++ ';' :: ts) = dropQuote cs ++ ';' :: ts := by
  cases cs with
  | nil => rfl
  | cons c cs =>
    rw [List.cons_append, dropQuote, dropQuote]
    split
    · rfl
    · rfl

def leave (ts : List Char) (found : List Char × List Char) : List Char × List Char := (found.1, found.2 ++ ';' :: ts)

theorem word?_append (cs : List Char) : word? (cs ++ ';' :: ts) = (word? cs).map (leave ts) := by
  have hend : isWordChar ';' = false := by decide
  have hlength : (cs.takeWhile isWordChar).length ≤ cs.length := (List.takeWhile_prefix _).length_le
  rw [word?, word?, takeWhile_append_cons hend, List.drop_append_of_le_length hlength]
  split
  · rfl
  · rfl

theorem table?_append (cs : List Char) : table? (cs ++ ';' :: ts) = (table? cs).map (leave ts) := by
  rw [table?, table?, dropQuote_append, word?_append]

theorem isWordEdge_append (before : Option Char) (cs : List Char) :
    isWordEdge before (cs ++ ';' :: ts).head? = isWordEdge before cs.head? := by
  cases cs with
  | nil => rfl
  | cons c cs => rfl

/-- A pattern whose matches end before the next semicolon, and to which a semicolon is like the edge of the text. -/
structure EndsAtSemicolon (p : Pattern) : Prop where
  nil (before : Option Char) : p before [] = none
  semicolon (cs : List Char) : p (some ';') cs = p none cs
  append (before : Option Char) (cs ts : List Char) : p before (cs ++ ';' :: ts) = (p before cs).map (leave ts)

section Binds

variable {α γ : Type} {after : γ → γ}

theorem bind_eq_map {f g : α → Option γ} (h : ∀ a, f a = (g a).map after) (o : Option α) :
    o >>= f = (o >>= g).map after := by
  cases o with
  | none => rfl
  | some a => exact h a

theorem bind_map_of_comm {more : α → α} {next : α → Option γ} (h : ∀ a, next (more a) = (next a).map after)
    (o : Option α) : o.map more >>= next = (o >>= next).map after := by
  cases o with
  | none => rfl
  | some a => exact h a

end Binds

section Readers

variable {next : List Char → Option (List Char × List Char)}

theorem bind_append {r : List Char → Option (List Char)}
    (hr : ∀ cs, r (cs ++ ';' :: ts) = (r cs).map (· ++ ';' :: ts))
    (hnext : ∀ cs, next (cs ++ ';' :: ts) = (next cs).map (leave ts)) (cs : List Char) :
    r (cs ++ ';' :: ts) >>= next = (r cs >>= next).map (leave ts) := by
  rw [hr]
  exact bind_map_of_comm hnext (r cs)

theorem edge_bind_append (before : Option Char) (cs : List Char) {f g : Unit → Option (List Char × List Char)}
    (h : ∀ u, f u = (g u).map (leave ts)) :
    guard (isWordEdge before (cs ++ ';' :: ts).head?) >>= f =
      (guard (isWordEdge before cs.head?) >>= g).map (leave ts) := by
  rw [isWordEdge_append]
  exact bind_eq_map h _

theorem keyword_append {word : List Char} (hword : ';' ∉ word)
    (hnext : ∀ cs, next (cs ++ ';' :: ts) = (next cs).map (leave ts)) (cs : List Char) :
    (dropWord? word (cs ++ ';' :: ts) >>= fun rest => dropBlanks? rest >>= next) =
      (dropWord? word cs >>= fun rest => dropBlanks? rest >>= next).map (leave ts) :=
  bind_append (dropWord?_append hword) (bind_append dropBlanks?_append hnext) cs

end Readers

theorem fromClause_append (before : Option Char) (cs : List Char) :
    fromClause before (cs ++ ';' :: ts) = (fromClause before cs).map (leave ts) := by
  induction cs generalizing before with
  | nil =>
    -- at the semicolon no `FROM` begins, and none is looked for after it
    have hhere : (do
        guard (isWordEdge before (some ';'))
        let rest ← dropWord? ['F', 'R', 'O', 'M'] (';' :: ts)
        table? (← dropBlanks? rest)) = none := Option.bind_fun_none _
    rw [List.nil_append, fromClause, fromClause, hhere]
    rfl
  | cons c cs ih =>
    rw [List.cons_append, fromClause, fromClause, ← List.cons_append, ih]
    rw [Option.orElse_eq_orElse, Option.orElse_eq_or, Option.orElse_eq_or, Option.map_or]
    congr 1
    · refine bind_eq_map (fun _ => ?_) _
      exact keyword_append (by decide) table?_append (c :: cs)
    · split
      · rfl
      · rfl

theorem tableCall_endsAtSemicolon : EndsAtSemicolon tableCall where
  nil _ := rfl
  semicolon _ := rfl
  append _ cs ts := by
    rw [tableCall, tableCall]
    refine bind_append (dropWord?_append (by decide)) (fun cs => ?_) cs
    rw [dropBlanks_append]
    refine bind_append (dropWord?_append (by decide)) (fun cs => ?_) _
    rw [dropBlanks_append]
    cases dropBlanks cs with
    | nil => rfl
    | cons q cs =>
      simp only [List.cons_append]
      split
      · rw [word?_append]
        refine bind_map_of_comm (fun found => ?_) _
        obtain ⟨name, cs⟩ := found
        -- the quotation mark after the name stands before the semicolon, if there is one
        cases cs with
        | nil => rfl
        | cons q cs =>
          simp only [leave, List.cons_append]
          split
          · rw [dropBlanks_append, dropWord?_append (by decide), Option.map_map, Option.map_map]
            rfl
          · rfl
      · rfl

theorem modelCall_endsAtSemicolon : EndsAtSemicolon modelCall where
  nil _ := rfl
  semicolon _ := rfl
  append _ cs ts := by
    rw [modelCall, modelCall]
    refine bind_append (dropExact?_append (by decide)) (fun cs => ?_) cs
    rw [dropBlanks_append]
    refine bind_append (dropExact?_append (by decide)) (fun cs => ?_) _
    rw [dropBlanks_append]
    refine bind_append (dropExact?_append (by decide)) (fun cs => ?_) _
    rw [word?_append]
    refine bind_map_of_comm (fun found => ?_) _
    dsimp only [leave]
    rw [dropBlanks_append]
    exact bind_append (dropExact?_append (by decide)) (fun _ => rfl) _

theorem selectStatement_endsAtSemicolon : EndsAtSemicolon selectStatement where
  nil _ := Option.bind_fun_none _
  semicolon _ := rfl
  append before cs ts := by
    rw [selectStatement, selectStatement]
    refine edge_bind_append before cs fun _ => ?_
    refine bind_append (dropWord?_append (by decide)) (fun cs => ?_) cs
    exact edge_bind_append _ cs fun _ => fromClause_append _ cs

theorem insertStatement_endsAtSemicolon : EndsAtSemicolon insertStatement where
  nil _ := Option.bind_fun_none _
  semicolon _ := rfl
  append before cs ts := by
    rw [insertStatement, insertStatement]
    refine edge_bind_append before cs fun _ => ?_
    apply keyword_append (by decide)
    exact keyword_append (by decide) table?_append

theorem updateStatement_endsAtSemicolon : EndsAtSemicolon updateStatement where
  nil _ := Option.bind_fun_none _
  semicolon _ := rfl
  append before cs ts := by
    rw [updateStatement, updateStatement]
    refine edge_bind_append before cs fun _ => ?_
    apply keyword_append (by decide)
    intro cs
    rw [table?_append]
    refine bind_map_of_comm (fun found => ?_) _
    dsimp only [leave]
    rw [dropQuote_append]
    refine bind_append dropBlanks?_append (fun cs => ?_) _
    refine bind_append (dropWord?_append (by decide)) (fun cs => ?_) cs
    exact edge_bind_append _ cs fun _ => rfl

theorem deleteStatement_endsAtSemicolon : EndsAtSemicolon deleteStatement where
  nil _ := Option.bind_fun_none _
  semicolon _ := rfl
  append before cs ts := by
    rw [deleteStatement, deleteStatement]
    refine edge_bind_append before cs fun _ => ?_
    apply keyword_append (by decide)
    exact keyword_append (by decide) table?_append

section Matches

variable {p : Pattern} (hp : EndsAtSemicolon p)

include hp

theorem matches?_semicolon (cs : List Char) : matches? p (some ';') 0 cs = matches? p none 0 cs := by
  cases cs with
  | nil => rfl
  | cons c cs => rw [matches?, matches?, hp.semicolon]

theorem matches?_append (before : Option Char) {skip : Nat} {cs : List Char} (hskip : skip ≤ cs.length)
    (ts : List Char) :
    matches? p before skip (cs ++ ';' :: ts) = matches? p before skip cs ++ matches? p none 0 ts := by
  induction cs generalizing before skip with
  | nil =>
    have hnone : p before (';' :: ts) = none := by
      have happend := hp.append before [] ts
      rwa [hp.nil] at happend
    obtain rfl : skip = 0 := Nat.le_zero.1 hskip
    rw [List.nil_append, matches?, List.nil_append, matches?, hnone]
    exact matches?_semicolon hp ts
  | cons c cs ih =>
    cases skip with
    | succ skip =>
      -- the match before ends within the first text
      rw [List.cons_append, matches?, matches?]
      exact ih (some c) (Nat.le_of_succ_le_succ hskip)
    | zero =>
      have happend := hp.append before (c :: cs) ts
      rw [List.cons_append] at happend ⊢
      rw [matches?, matches?, happend]
      cases p before (c :: cs) with
      | none => exact ih (some c) (Nat.zero_le _)
      | some found =>
        obtain ⟨name, rest⟩ := found
        have hlength : (cs ++ ';' :: ts).length - (rest ++ ';' :: ts).length = cs.length - rest.length := by
          simp only [List.length_append, List.length_cons]
          omega
        simp only [Option.map_some, leave, hlength, List.cons_append]
        rw [ih (some c) (Nat.sub_le _ _)]

end Matches

def namedBy (p : Pattern) (text : String) : List String := matches? p none 0 text.toList

theorem namedBy_semicolon {p : Pattern} (hp : EndsAtSemicolon p) (s t : String) :
    namedBy p (s ++ ";" ++ t) = namedBy p s ++ namedBy p t := by
  have hlist : (s ++ ";" ++ t).toList = s.toList ++ ';' :: t.toList := by simp
  rw [namedBy, hlist]
  exact matches?_append hp none (Nat.zero_le _) t.toList

def patterns : List Pattern := [tableCall, modelCall, selectStatement, insertStatement, updateStatement, deleteStatement]

theorem endsAtSemicolon_of_mem_patterns : ∀ p ∈ patterns, EndsAtSemicolon p := by
  simp only [patterns, List.forall_mem_cons]
  exact ⟨tableCall_endsAtSemicolon, modelCall_endsAtSemicolon, selectStatement_endsAtSemicolon,
    insertStatement_endsAtSemicolon, updateStatement_endsAtSemicolon, deleteStatement_endsAtSemicolon,
    List.forall_mem_nil _⟩

end TableAccess

open TableAccess

theorem mem_sqlTables_iff {text table : String} :
    table ∈ sqlTables text ↔ table ≠ "" ∧
      (table ∈ namedBy tableCall text ∨ table ∈ (namedBy modelCall text).map snakeCase ∨
        table ∈ namedBy selectStatement text ∨ table ∈ namedBy insertStatement text ∨
        table ∈ namedBy updateStatement text ∨ table ∈ namedBy deleteStatement text) := by
  simp only [sqlTables, mem_distinctNames_iff, List.mem_append, namedBy, or_assoc, and_comm]

/-- Each pattern finds in two texts with a semicolon between them what it finds in the first text and then what it finds in
the second one, so these texts name the tables that one of them names. No text names a table twice, or one without a
name. -/
theorem sqlTables_semicolon (s t : String) :
    (∀ table, table ∈ sqlTables (s ++ ";" ++ t) ↔ table ∈ sqlTables s ∨ table ∈ sqlTables t) ∧
      (patterns.map fun p => namedBy p (s ++ ";" ++ t)) = (patterns.map fun p => namedBy p s ++ namedBy p t) ∧
      ∀ text, (sqlTables text).Nodup ∧ "" ∉ sqlTables text := by
  refine ⟨fun table => ?_, ?_, fun text => ⟨nodup_distinctNames _, ?_⟩⟩
  · simp only [mem_sqlTables_iff, namedBy_semicolon tableCall_endsAtSemicolon,
      namedBy_semicolon modelCall_endsAtSemicolon, namedBy_semicolon selectStatement_endsAtSemicolon,
      namedBy_semicolon insertStatement_endsAtSemicolon, namedBy_semicolon updateStatement_endsAtSemicolon,
      namedBy_semicolon deleteStatement_endsAtSemicolon, List.map_append, List.mem_append]
    tauto
  · apply List.map_congr_left
    intro p hp
    exact namedBy_semicolon (endsAtSemicolon_of_mem_patterns p hp) s t
  · rw [mem_sqlTables_iff]
    exact fun h => h.1 rfl

end Demarcation
