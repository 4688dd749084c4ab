import Mathlib.Algebra.Group.Nat.Even
import Mathlib.Data.List.DropRight
import Demarcation.Report.Graph

/-!
Quoted strings of a graph description. A text is escaped without regard to its backslashes, so the string that is written
for it is read back as it stands if the backslashes before each quotation mark and before the end come in pairs
(`readsExactlyIf_escaped`). If they do not, the string ends at another place and has another value.
-/

namespace Demarcation.Graph

/-- Reads what follows the opening mark of a quoted string: its value, and what comes after its closing mark. A backslash
is read together with a quotation mark or a backslash after it, and only the one before a quotation mark is dropped. -/
def readQuoted? : List Char → Option (List Char × List Char)
  | [] => none
  | '"' :: cs => some ([], cs)
  | '\\' :: '"' :: cs => (readQuoted? cs).map fun p => ('"' :: p.1, p.2)
  | '\\' :: '\\' :: cs => (readQuoted? cs).map fun p => ('\\' :: '\\' :: p.1, p.2)
  | c :: cs => (readQuoted? cs).map fun p => (c :: p.1, p.2)

def readString? : List Char → Option (String × List Char)
  | '"' :: cs => (readQuoted? cs).map fun p => (String.ofList p.1, p.2)
  | _ => none

section Reading

variable {c d : Char} {cs v r : List Char}

theorem readQuoted?_cons (hc : c ≠ '"') (hc' : c ≠ '\\') :
    readQuoted? (c :: cs) = (readQuoted? cs).map fun p => (c :: p.1, p.2) := by
  rw [readQuoted?]
  · exact hc
  · rintro _ rfl
    exact absurd rfl hc'
  · rintro _ rfl
    exact absurd rfl hc'

theorem readQuoted?_backslash_cons (hd : d ≠ '"') (hd' : d ≠ '\\') :
    readQuoted? ('\\' :: d :: cs) = (readQuoted? (d :: cs)).map fun p => ('\\' :: p.1, p.2) := by
  rw [readQuoted?]
  · decide
  · rintro _ - h
    exact hd (List.cons.inj h).1
  · rintro _ - h
    exact hd' (List.cons.inj h).1

theorem readQuoted?_backslashes (cs : List Char) : readQuoted? ('\\' :: '\\' :: cs) =
    ((readQuoted? cs).map fun p => ('\\' :: p.1, p.2)).map fun p => ('\\' :: p.1, p.2) := by
  rw [readQuoted?, Option.map_map]
  rfl

theorem length_lt_of_readQuoted? (h : readQuoted? cs = some (v, r)) : r.length < cs.length := by
  fun_induction readQuoted? cs generalizing v with
  | case1 => simp at h
  | case2 cs => simp_all
  | case3 cs ih | case4 cs ih | case5 c cs _ _ _ ih =>
    obtain ⟨p, hp, hv⟩ := Option.map_eq_some_iff.1 h
    obtain ⟨rfl, rfl⟩ := Prod.mk.inj hv
    have hlt := ih hp
    simp only [List.length_cons]
    omega

end Reading

section Pairs

def trailing (cs : List Char) : Nat := (cs.rtakeWhile (· == '\\')).length

/-- Whether the backslashes before each quotation mark and before the end come in pairs, those in front included. -/
def PairedFrom (front cs : List Char) : Prop :=
  ∀ before after, cs = before ++ after → after = [] ∨ after.head? = some '"' → Even (trailing (front ++ before))

def Paired (s : String) : Prop := PairedFrom [] s.toList

variable {c : Char} {cs ds front front' : List Char}

theorem trailing_concat (cs : List Char) (c : Char) :
    trailing (cs ++ [c]) = if c = '\\' then trailing cs + 1 else 0 := by
  rw [trailing, List.rtakeWhile_concat]
  by_cases h : c = '\\'
  · simp [h, trailing]
  · simp [h]

theorem trailing_concat_of_ne (cs : List Char) (h : c ≠ '\\') : trailing (cs ++ [c]) = 0 := by
  rw [trailing_concat, if_neg h]

theorem even_trailing_backslash (cs : List Char) : Even (trailing (cs ++ ['\\'])) ↔ ¬Even (trailing cs) := by
  rw [trailing_concat, if_pos rfl, Nat.even_add_one]

theorem pairedFrom_nil : PairedFrom front [] ↔ Even (trailing front) := by
  constructor
  · intro h
    simpa using h [] [] rfl (.inl rfl)
  · intro h before after hsplit _
    obtain ⟨rfl, rfl⟩ := List.append_eq_nil_iff.1 hsplit.symm
    simpa using h

theorem pairedFrom_cons :
    PairedFrom front (c :: cs) ↔ (c = '"' → Even (trailing front)) ∧ PairedFrom (front ++ [c]) cs := by
  constructor
  · intro h
    constructor
    · rintro rfl
      simpa using h [] _ rfl (.inr rfl)
    · intro before after hsplit hafter
      simpa using h (c :: before) after (congrArg (c :: ·) hsplit) hafter
  · rintro ⟨hquote, h⟩ before after hsplit hafter
    cases before with
    | nil =>
      rw [List.nil_append] at hsplit
      subst hsplit
      obtain hafter | hafter := hafter
      · exact absurd hafter (List.cons_ne_nil c cs)
      · simpa using hquote (Option.some.inj hafter)
    | cons d before =>
      obtain ⟨rfl, htail⟩ := List.cons.inj hsplit
      simpa using h before after htail hafter

theorem pairedFrom_congr (h : trailing front = trailing front') : PairedFrom front cs ↔ PairedFrom front' cs := by
  induction cs generalizing front front' with
  | nil => rw [pairedFrom_nil, pairedFrom_nil, h]
  | cons c cs ih =>
    rw [pairedFrom_cons, pairedFrom_cons, h]
    apply and_congr_right'
    apply ih
    rw [trailing_concat, trailing_concat, h]

instance decidablePairedFrom : (front cs : List Char) → Decidable (PairedFrom front cs)
  | _, [] => decidable_of_iff _ pairedFrom_nil.symm
  | front, c :: cs =>
    haveI := decidablePairedFrom (front ++ [c]) cs
    decidable_of_iff _ pairedFrom_cons.symm

instance : DecidablePred Paired := fun s => inferInstanceAs (Decidable (PairedFrom [] s.toList))

def IsPlain (cs : List Char) : Prop := ∀ c ∈ cs, c ≠ '"' ∧ c ≠ '\\'

instance : DecidablePred IsPlain := fun cs => List.decidableBAll (fun c => c ≠ '"' ∧ c ≠ '\\') cs

theorem pairedFrom_append_of_isPlain (front cs : List Char) (h : IsPlain ds) (hne : ds ≠ []) :
    PairedFrom front (ds ++ cs) ↔ PairedFrom [] cs := by
  induction ds generalizing front with
  | nil => exact absurd rfl hne
  | cons d ds ih =>
    obtain ⟨hquote, hbackslash⟩ := h d List.mem_cons_self
    have hds : IsPlain ds := fun c hc => h c (List.mem_cons_of_mem d hc)
    rw [List.cons_append, pairedFrom_cons, and_iff_right fun heq => absurd heq hquote]
    by_cases hnil : ds = []
    · rw [hnil, List.nil_append]
      exact pairedFrom_congr (trailing_concat_of_ne front hbackslash)
    · exact ih (front ++ [d]) hds hnil

theorem pairedFrom_append (h : PairedFrom front cs) (hds : IsPlain ds) (hne : ds ≠ []) : PairedFrom front (cs ++ ds) := by
  induction cs generalizing front with
  | nil =>
    have hnil : PairedFrom [] [] := pairedFrom_nil.2 Even.zero
    have hplain := (pairedFrom_append_of_isPlain front [] hds hne).2 hnil
    rwa [List.append_nil] at hplain
  | cons c cs ih =>
    obtain ⟨hquote, h⟩ := pairedFrom_cons.1 h
    exact pairedFrom_cons.2 ⟨hquote, ih h⟩

end Pairs

section Escaping

def escaped (cs : List Char) : List Char := cs.flatMap fun c => if c = '"' then ['\\', '"'] else [c]

structure ReadsExactlyIf (p : Prop) (value rest : List Char) (result : Option (List Char × List Char)) : Prop where
  eq_some : p → result = some (value, rest)
  ne : ¬p → ∀ v r, result = some (v, r) → v ≠ value ∧ r.length ≠ rest.length

variable {p q : Prop} {value rest : List Char} {result : Option (List Char × List Char)}

theorem ReadsExactlyIf.cons (h : ReadsExactlyIf p value rest result) (c : Char) :
    ReadsExactlyIf p (c :: value) rest (result.map fun p => (c :: p.1, p.2)) where
  eq_some hp := by rw [h.eq_some hp, Option.map_some]
  ne hp v r hresult := by
    obtain ⟨⟨v', r'⟩, hread, heq⟩ := Option.map_eq_some_iff.1 hresult
    obtain ⟨rfl, rfl⟩ := Prod.mk.inj heq
    obtain ⟨hvalue, hrest⟩ := h.ne hp v' r' hread
    exact ⟨fun heq => hvalue (List.cons.inj heq).2, hrest⟩

theorem ReadsExactlyIf.congr (h : ReadsExactlyIf p value rest result) (hpq : p ↔ q) :
    ReadsExactlyIf q value rest result := by rwa [← hpq]

theorem escaped_cons_of_ne {c : Char} (h : c ≠ '"') (cs : List Char) : escaped (c :: cs) = c :: escaped cs := by
  simp [escaped, h]

theorem escaped_quote (cs : List Char) : escaped ('"' :: cs) = '\\' :: '"' :: escaped cs := rfl

theorem readsExactlyIf_escaped (cs front rest : List Char) :
    (Even (trailing front) →
      ReadsExactlyIf (PairedFrom front cs) cs rest (readQuoted? (escaped cs ++ '"' :: rest))) ∧
    (¬Even (trailing front) →
      ReadsExactlyIf (PairedFrom front cs) ('\\' :: cs) rest (readQuoted? ('\\' :: (escaped cs ++ '"' :: rest)))) := by
  -- by induction on what is left of the text, with the part in front of it; if that part ends in an odd number of
  -- backslashes, the last of them is not in a pair yet and is still to be read
  induction cs generalizing front with
  | nil =>
    constructor
    · intro heven
      exact ⟨fun _ => rfl, fun hodd => absurd (pairedFrom_nil.2 heven) hodd⟩
    · intro hodd
      refine ⟨fun h => absurd (pairedFrom_nil.1 h) hodd, ?_⟩
      intro _ v r hread
      obtain ⟨⟨v', r'⟩, hrest, heq⟩ := Option.map_eq_some_iff.1 hread
      obtain ⟨rfl, rfl⟩ := Prod.mk.inj heq
      exact ⟨by simp, (length_lt_of_readQuoted? hrest).ne⟩
  | cons c cs ih =>
    obtain ⟨iheven, ihodd⟩ := ih (front ++ [c])
    by_cases hquote : c = '"'
    · subst hquote
      have hnext : Even (trailing (front ++ ['"'])) := by
        rw [trailing_concat_of_ne front (by decide)]
        exact Even.zero
      rw [escaped_quote]
      constructor
      · intro heven
        apply ((iheven hnext).cons '"').congr
        rw [pairedFrom_cons, and_iff_right fun _ => heven]
      · intro hodd
        refine ⟨fun h => absurd ((pairedFrom_cons.1 h).1 rfl) hodd, ?_⟩
        intro _ v r hread
        -- the open backslash takes the inserted one, and the quotation mark ends the string
        have hearly : readQuoted? ('\\' :: ('\\' :: '"' :: escaped cs ++ '"' :: rest)) =
            some (['\\', '\\'], escaped cs ++ '"' :: rest) := rfl
        obtain ⟨rfl, rfl⟩ := Prod.mk.inj (Option.some.inj (hearly.symm.trans hread))
        refine ⟨by simp, ?_⟩
        rw [List.length_append, List.length_cons]
        omega
    · have hstep : PairedFrom front (c :: cs) ↔ PairedFrom (front ++ [c]) cs := by
        rw [pairedFrom_cons, and_iff_right fun heq => absurd heq hquote]
      rw [escaped_cons_of_ne hquote, List.cons_append]
      by_cases hbackslash : c = '\\'
      · subst hbackslash
        constructor
        · intro heven
          apply (ihodd _).congr hstep.symm
          rwa [even_trailing_backslash, not_not]
        · intro hodd
          rw [readQuoted?_backslashes]
          apply (((iheven _).cons '\\').cons '\\').congr hstep.symm
          rwa [even_trailing_backslash]
      · have hnext : Even (trailing (front ++ [c])) := by
          rw [trailing_concat_of_ne front hbackslash]
          exact Even.zero
        constructor
        · intro _
          rw [readQuoted?_cons hquote hbackslash]
          exact ((iheven hnext).cons c).congr hstep.symm
        · intro _
          rw [readQuoted?_backslash_cons hquote hbackslash, readQuoted?_cons hquote hbackslash]
          exact (((iheven hnext).cons c).cons '\\').congr hstep.symm

theorem toList_quote (s : String) : (quote s).toList = '"' :: (escaped s.toList ++ ['"']) := by
  simp only [quote, escape, String.toList_append, String.toList_ofList]
  rfl

theorem readsExactlyIf_quote (s : String) (rest : List Char) :
    ReadsExactlyIf (Paired s) s.toList rest (readQuoted? (escaped s.toList ++ '"' :: rest)) :=
  (readsExactlyIf_escaped s.toList [] rest).1 Even.zero

theorem readString?_quote (s : String) (rest : List Char) : readString? ((quote s).toList ++ rest) =
    (readQuoted? (escaped s.toList ++ '"' :: rest)).map fun p => (String.ofList p.1, p.2) := by
  rw [toList_quote, List.cons_append, List.append_assoc]
  rfl

theorem readString?_of_paired {s : String} (h : Paired s) (rest : List Char) :
    readString? ((quote s).toList ++ rest) = some (s, rest) := by
  rw [readString?_quote, (readsExactlyIf_quote s rest).eq_some h, Option.map_some, String.ofList_toList]

theorem paired_of_readString? {s v : String} {rest : List Char}
    (h : readString? ((quote s).toList ++ rest) = some (v, rest)) : Paired s := by
  by_contra hs
  rw [readString?_quote] at h
  obtain ⟨⟨v', r⟩, hread, heq⟩ := Option.map_eq_some_iff.1 h
  obtain ⟨-, rfl⟩ := Prod.mk.inj heq
  exact ((readsExactlyIf_quote s r).ne hs v' r hread).2 rfl

end Escaping

end Demarcation.Graph
