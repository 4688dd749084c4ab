import Demarcation.Proofs.SettingLayers

namespace Demarcation

open Document

variable {R : Type} [Scalar R]

/-- Whether a value is a number that is not below a bound. What is no number in its type is below nothing. -/
def Document.NotBelow (bound : Int) (d : Document R) : Prop :=
  ∃ x, d.number? = .ok x ∧ Scalar.lt x (Scalar.ofInt bound) = false

def Document.WithinUnit (d : Document R) : Prop :=
  ∃ x, d.number? = .ok x ∧ Scalar.le (Scalar.ofNat 0) x = true ∧ Scalar.le x (Scalar.ofNat 1) = true

namespace Setting

def Admits : Setting → Document R → Prop
  | .sampling, d => ∃ mode ∈ Settings.samplingModes, d = .text mode
  | .maxFiles, d => d.NotBelow 1
  | .maxDependencyNodes, d => d.NotBelow 2
  | .minConfidence, d => d.WithinUnit
  | .workers, d => ∃ n, d.asInt = .ok n
  | _, _ => True

def settled : Setting → Document R → Document R
  | .workers, d =>
    match d.asInt with
    | .ok n => .int (max 1 n)
    | .error _ => d
  | _, d => d

variable {s : Setting} {d : Document R}

theorem settled_of_ne (h : s ≠ .workers) (d : Document R) : s.settled d = d := by
  cases s with
  | workers => exact absurd rfl h
  | _ => rfl

theorem settled_workers {n : Int} (h : d.asInt = .ok n) : Setting.workers.settled d = .int (max 1 n) := by
  simp only [settled, h]

theorem settled_settled (s : Setting) (d : Document R) : s.settled (s.settled d) = s.settled d := by
  by_cases hs : s = .workers
  · subst hs
    cases hd : d.asInt with
    | error fault =>
      have hkept : Setting.workers.settled d = d := by simp only [settled, hd]
      rw [hkept, hkept]
    | ok n =>
      rw [settled_workers hd, settled_workers (n := max 1 n) rfl]
      exact congrArg Document.int (by omega)
  · rw [settled_of_ne hs, settled_of_ne hs]

theorem admits_settled_iff : s.Admits (s.settled d) ↔ s.Admits d := by
  by_cases hs : s = .workers
  · subst hs
    cases hd : d.asInt with
    | error fault => simp only [settled, hd]
    | ok n =>
      rw [settled_workers hd]
      exact ⟨fun _ => ⟨n, hd⟩, fun _ => ⟨max 1 n, rfl⟩⟩
  · rw [settled_of_ne hs]

end Setting

namespace Settings

variable {s : Setting} {c g : Settings R} {d : Document R} {given : Layer R} {value : Document R}

section Checking

theorem checkSampling_eq_ok_iff : checkSampling d = .ok () ↔ Setting.sampling.Admits d := by
  cases d with
  | text mode => simp [checkSampling, Setting.Admits]
  | _ => simp [checkSampling, Setting.Admits]

theorem checkLeast_eq_ok_iff (fault : Fault) {bound : Int} : checkLeast bound fault d = .ok () ↔ d.NotBelow bound := by
  unfold checkLeast isLess NotBelow
  cases d.number? with
  | error fault => simp [error_bind]
  | ok x => cases hx : Scalar.lt x (Scalar.ofInt bound) <;> simp [ok_bind, number?, pure, Except.pure, hx]

theorem checkShare_eq_ok_iff (fault : Fault) : checkShare fault d = .ok () ↔ d.WithinUnit := by
  unfold checkShare WithinUnit
  cases d.number? with
  | error fault => simp [error_bind]
  | ok x => simp [ok_bind]

theorem check_eq_ok_iff :
    c.check = .ok () ↔ Setting.sampling.Admits (c.value .sampling) ∧ (c.value .maxFiles).NotBelow 1 ∧
      (c.value .maxDependencyNodes).NotBelow 2 ∧ (c.value .minConfidence).WithinUnit := by
  rw [← checkSampling_eq_ok_iff, ← checkLeast_eq_ok_iff .tooFewFiles, ← checkLeast_eq_ok_iff .tooFewDependencyNodes,
    ← checkShare_eq_ok_iff .confidenceOutOfRange]
  constructor
  · intro h
    obtain ⟨_, hsampling, h⟩ := exists_of_bind_eq_ok h
    obtain ⟨_, hfiles, h⟩ := exists_of_bind_eq_ok h
    obtain ⟨_, hnodes, hconfidence⟩ := exists_of_bind_eq_ok h
    exact ⟨hsampling, hfiles, hnodes, hconfidence⟩
  · rintro ⟨hsampling, hfiles, hnodes, hconfidence⟩
    rw [check, hsampling, ok_bind, hfiles, ok_bind, hnodes, ok_bind, hconfidence]

theorem forall_admits_iff :
    (∀ s : Setting, s.Admits (c.value s)) ↔ c.check = .ok () ∧ ∃ n, (c.value .workers).asInt = .ok n := by
  rw [check_eq_ok_iff]
  constructor
  · intro h
    exact ⟨⟨h .sampling, h .maxFiles, h .maxDependencyNodes, h .minConfidence⟩, h .workers⟩
  · rintro ⟨⟨hsampling, hfiles, hnodes, hconfidence⟩, hworkers⟩ s
    cases s with
    | sampling => exact hsampling
    | maxFiles => exact hfiles
    | maxDependencyNodes => exact hnodes
    | minConfidence => exact hconfidence
    | workers => exact hworkers
    | _ => trivial

def settled (g : Settings R) : Settings R := ⟨fun s => s.settled (g.value s)⟩

theorem settled_of_workers {n : Int} (h : (g.value .workers).asInt = .ok n) :
    g.settled = g.withValue .workers (.int (max 1 n)) := by
  unfold settled withValue
  congr 1
  funext s
  by_cases hs : s = .workers
  · rw [if_pos hs, hs, Setting.settled_workers h]
  · rw [if_neg hs, Setting.settled_of_ne hs]

theorem validate_eq_ok_iff : g.validate = .ok c ↔ (∀ s : Setting, s.Admits (g.value s)) ∧ c = g.settled := by
  rw [validate_eq, forall_admits_iff]
  constructor
  · intro h
    obtain ⟨_, hcheck, h⟩ := exists_of_bind_eq_ok h
    obtain ⟨workers, hworkers, h⟩ := exists_of_bind_eq_ok h
    cases hn : (g.value .workers).asInt with
    | error fault =>
      rw [hn] at hworkers
      cases hworkers
    | ok n =>
      rw [hn] at hworkers
      cases hworkers
      exact ⟨⟨hcheck, n, rfl⟩, (Except.ok.inj h).symm.trans (settled_of_workers hn).symm⟩
  · rintro ⟨⟨hcheck, n, hn⟩, rfl⟩
    rw [hcheck, ok_bind, hn, settled_of_workers hn]
    rfl

theorem ofLayer_eq_ok_iff :
    ofLayer given = .ok c ↔
      Known given ∧ (∀ s : Setting, s.Admits ((assemble given).value s)) ∧ c = (assemble given).settled := by
  constructor
  · intro h
    have hknown := known_of_ofLayer h
    rw [ofLayer_of_known hknown, validate_eq_ok_iff] at h
    exact ⟨hknown, h⟩
  · rintro ⟨hknown, h⟩
    rw [ofLayer_of_known hknown, validate_eq_ok_iff]
    exact h

end Checking

theorem exists_ofLayer_put_iff (hgiven : ofLayer given = .ok c) :
    (∃ c', ofLayer (put s.name value given) = .ok c') ↔ s.Admits value := by
  obtain ⟨hknown, hadmits, -⟩ := ofLayer_eq_ok_iff.1 hgiven
  have hvalue (x : Setting) :
      (assemble (put s.name value given)).value x = if x = s then value else (assemble given).value x := by
    rw [assemble_put]
    rfl
  constructor
  · rintro ⟨c', h⟩
    obtain ⟨-, hadmits', -⟩ := ofLayer_eq_ok_iff.1 h
    have hs := hadmits' s
    rwa [hvalue, if_pos rfl] at hs
  · intro hs
    refine ⟨_, ofLayer_eq_ok_iff.2 ⟨known_put hknown, fun x => ?_, rfl⟩⟩
    rw [hvalue]
    by_cases hx : x = s
    · rw [if_pos hx, hx]
      exact hs
    · rw [if_neg hx]
      exact hadmits x

end Settings

end Demarcation
