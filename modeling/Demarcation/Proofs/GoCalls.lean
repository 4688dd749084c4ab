import Demarcation.Language.GoDeclarations
import Demarcation.Proofs.Grouping

namespace Demarcation.Go

open Grammar Grammar.Tree

def ownNames : List String := builtinFunctions ++ builtinTypes

def IsCalled (t target : Tree) : Prop :=
  ∃ above line source size arguments, Path t above (.node .call line source size (target :: arguments))

def Nameless (t : Tree) : Prop := ∀ name, callName? t = some name → name = ""

inductive LeftOut : Tree → Prop where
  | nameless {t : Tree} : Nameless t → LeftOut t
  | own {t : Tree} : t.kind = .identifier → t.text ∈ ownNames → LeftOut t
  /-- What is selected from an expression without a name, called like a function or a type of the language. -/
  | namesake {line : Nat} {source : List Char} {size : Nat} {operand field : Tree} :
      Nameless operand → field.text ∈ ownNames → LeftOut (.node .selector line source size [operand, field])

theorem dot_not_mem_of_mem_ownNames : ∀ name ∈ ownNames, '.' ∉ name.toList := by decide +kernel

section CallName

variable {line size : Nat} {source : List Char} {operand field : Tree} {name : String}

theorem callName?_selector_of_nameless (h : Nameless operand) :
    callName? (.node .selector line source size [operand, field]) = some field.text := by
  rw [callName?]
  cases hbase : callName? operand with
  | none => rfl
  | some base =>
    obtain rfl := h base hbase
    rfl

theorem dot_mem_of_callName?_selector (h : ¬Nameless operand)
    (hname : callName? (.node .selector line source size [operand, field]) = some name) : '.' ∈ name.toList := by
  simp only [Nameless, not_forall] at h
  obtain ⟨base, hbase, hne⟩ := h
  have hempty : base.isEmpty = false := by simpa using hne
  rw [callName?, hbase] at hname
  simp only [hempty, Bool.false_eq_true, if_false, Option.some.injEq] at hname
  subst hname
  simp

theorem leftOut_iff {target : Tree} (hname : callName? target = some name) :
    LeftOut target ↔ name = "" ∨ name ∈ ownNames := by
  constructor
  · rintro (hnameless | ⟨hkind, htext⟩ | ⟨hoperand, hfield⟩)
    · exact .inl (hnameless name hname)
    · cases target with
      | node kind line source size children =>
        obtain rfl : kind = .identifier := hkind
        rw [callName?, Option.some.injEq] at hname
        exact .inr (hname ▸ htext)
    · rw [callName?_selector_of_nameless hoperand, Option.some.injEq] at hname
      exact .inr (hname ▸ hfield)
  · rintro (rfl | hown)
    · refine .nameless fun name hsome => ?_
      rw [hname, Option.some.injEq] at hsome
      exact hsome.symm
    · -- a name of the language has no dot, but what is selected from something with a name has one
      have hdot := dot_not_mem_of_mem_ownNames name hown
      have hall := hname
      rw [callName?.eq_def] at hname
      split at hname
      · rw [Option.some.injEq] at hname
        subst hname
        exact .own rfl hown
      · next operand field =>
        by_cases hoperand : Nameless operand
        · rw [callName?_selector_of_nameless hoperand, Option.some.injEq] at hall
          exact .namesake hoperand (hall ▸ hown)
        · exact absurd (dot_mem_of_callName?_selector hoperand hall) hdot
      · cases hname

end CallName

def callTargets (t : Tree) : List Tree :=
  (visit (fun _ => false) [t]).filterMap fun call => if call.kind = .call then call.first? else none

theorem mem_callTargets_iff {t target : Tree} : target ∈ callTargets t ↔ IsCalled t target := by
  simp only [callTargets, List.mem_filterMap, mem_visit_iff, List.mem_singleton, exists_eq_left, IsCalled]
  constructor
  · rintro ⟨⟨kind, line, source, size, children⟩, ⟨above, hpath, -⟩, hcall⟩
    obtain ⟨hkind, hfirst⟩ := Option.ite_none_right_eq_some.1 hcall
    obtain rfl : kind = .call := hkind
    obtain ⟨arguments, rfl⟩ := List.head?_eq_some_iff.1 hfirst
    exact ⟨above, line, source, size, arguments, hpath⟩
  · rintro ⟨above, line, source, size, arguments, hpath⟩
    exact ⟨_, ⟨above, hpath, fun _ _ => trivial⟩, rfl⟩

theorem calledName?_eq_some_iff {t : Tree} {name : String} :
    calledName? t = some name ↔ ∃ line source size target arguments,
      t = .node .call line source size (target :: arguments) ∧
        callName? target = some name ∧ name ≠ "" ∧ name ∉ ownNames := by
  have hfits : (!name.isEmpty && !builtinFunctions.contains name && !builtinTypes.contains name) = true ↔
      name ≠ "" ∧ name ∉ ownNames := by
    simp [ownNames, and_assoc]
  constructor
  · intro h
    rw [calledName?.eq_def] at h
    split at h
    · obtain ⟨hname, hrecorded⟩ := Option.filter_eq_some_iff.1 h
      exact ⟨_, _, _, _, _, rfl, hname, hfits.1 hrecorded⟩
    · cases h
  · rintro ⟨line, source, size, target, arguments, rfl, hname, hrecorded⟩
    exact Option.filter_eq_some_iff.2 ⟨hname, hfits.2 hrecorded⟩

theorem mem_calledNames_iff {t : Tree} {name : String} :
    name ∈ calledNames t ↔
      ∃ target, IsCalled t target ∧ callName? target = some name ∧ name ≠ "" ∧ name ∉ ownNames := by
  simp only [calledNames, mem_distinctNames_iff, List.mem_filterMap, mem_visit_iff, List.mem_singleton,
    exists_eq_left, calledName?_eq_some_iff]
  constructor
  · rintro ⟨⟨call, ⟨above, hpath, -⟩, line, source, size, target, arguments, rfl, hrecorded⟩, -⟩
    exact ⟨target, ⟨above, line, source, size, arguments, hpath⟩, hrecorded⟩
  · rintro ⟨target, ⟨above, line, source, size, arguments, hpath⟩, hrecorded⟩
    exact ⟨⟨_, ⟨above, hpath, fun _ _ => trivial⟩, line, source, size, target, arguments, rfl, hrecorded⟩, hrecorded.2.1⟩

/-- Each call in a tree is recorded once by its name, but for the calls of what is left out. -/
theorem calledNames_iff (t : Tree) :
    (calledNames t).Nodup ∧
      (∀ name, name ∈ calledNames t ↔
        ∃ target, IsCalled t target ∧ callName? target = some name ∧ ¬LeftOut target) ∧
      ∀ target, IsCalled t target →
        ((∃ name, callName? target = some name ∧ name ∈ calledNames t) ↔ ¬LeftOut target) := by
  refine ⟨nodup_distinctNames _, fun name => ?_, fun target htarget => ⟨?_, fun hrecorded => ?_⟩⟩
  · rw [mem_calledNames_iff]
    refine exists_congr fun target => and_congr_right fun _ => and_congr_right fun hname => ?_
    rw [leftOut_iff hname, not_or]
  · rintro ⟨name, hname, hmem⟩
    obtain ⟨-, -, -, hne, hown⟩ := mem_calledNames_iff.1 hmem
    rw [leftOut_iff hname, not_or]
    exact ⟨hne, hown⟩
  · cases hname : callName? target with
    | none =>
      have hnameless : Nameless target := fun name hsome => by simp [hname] at hsome
      exact absurd (.nameless hnameless) hrecorded
    | some name =>
      rw [leftOut_iff hname, not_or] at hrecorded
      exact ⟨name, rfl, mem_calledNames_iff.2 ⟨target, htarget, hname, hrecorded⟩⟩

def firstBody (text : String) : Tree :=
  (((parse? text).bind (·.child? .function)).bind (·.child? .block)).getD default

def chainedCalls : String :=
  "package store\n\nfunc Close(s *Store) \x7b\n\ts.db.Close()\n\topen(len(s.rows)).Reset()\n\x7d\n"

theorem calledNames_iff_chainedCalls :
    ∃ target, IsCalled (firstBody chainedCalls) target ∧ callName? target = some "Reset" ∧ ¬LeftOut target := by
  obtain ⟨-, -, hrecorded⟩ := calledNames_iff (firstBody chainedCalls)
  have htarget : ∃ target ∈ callTargets (firstBody chainedCalls), callName? target = some "Reset" := by
    decide +kernel
  have hreset : "Reset" ∈ calledNames (firstBody chainedCalls) := by decide +kernel
  obtain ⟨target, hmem, hname⟩ := htarget
  have hcalled := mem_callTargets_iff.1 hmem
  exact ⟨target, hcalled, hname, (hrecorded target hcalled).1 ⟨"Reset", hname, hreset⟩⟩

def closedConnection : String := "package store\n\nfunc Reset() \x7b\n\topen().close()\n\x7d\n"

theorem calledNames_closedConnection :
    ∃ target, IsCalled (firstBody closedConnection) target ∧ target.kind = .selector ∧
      callName? target = some "close" ∧ calledNames (firstBody closedConnection) = ["open"] := by
  have htarget : ∃ target ∈ callTargets (firstBody closedConnection),
      target.kind = .selector ∧ callName? target = some "close" := by
    decide +kernel
  have hcalls : calledNames (firstBody closedConnection) = ["open"] := by decide +kernel
  obtain ⟨target, hmem, hkind, hname⟩ := htarget
  exact ⟨target, mem_callTargets_iff.1 hmem, hkind, hname, hcalls⟩

end Demarcation.Go
