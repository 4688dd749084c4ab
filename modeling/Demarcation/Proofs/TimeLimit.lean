import Demarcation.Discovery

/-!
What a time limit does to an analysis. The time is compared with the limit at four checkpoints, one before each stage. At
the first one where the limit is reached the analysis ends with a report that holds nothing but the counts so far; if
there is none, it ends as without a limit (`run_of_limit`). A single checkpoint is `Follows.checkpoint`.
-/

namespace Demarcation

variable {R : Type}

namespace Clock

def reading (c : Clock R) (n : Nat) : R := c.next.getD n c.last

theorem fst_read (c : Clock R) : c.read.1 = c.reading 0 := by
  unfold read reading
  cases c.next with
  | nil => rfl
  | cons t ts => rfl

theorem reading_snd_read (c : Clock R) (n : Nat) : c.read.2.reading n = c.reading (n + 1) := by
  unfold read reading
  cases h : c.next with
  | nil => simp [h]
  | cons t ts => rfl

end Clock

namespace Deadline

variable [Scalar R] {α : Type} {clock : Clock R} {stopped : α} {next : Clock R → Except Fault α}

theorem unlessExpired_none (started : R) :
    (⟨none, started⟩ : Deadline R).unlessExpired clock stopped next = next clock := rfl

theorem unlessExpired_some (limit started : R) :
    (⟨some limit, started⟩ : Deadline R).unlessExpired clock stopped next =
      if Scalar.le limit (clock.reading 0 - started) then .ok stopped else next clock.read.2 := by
  rw [← Clock.fst_read]
  rfl

end Deadline

structure Report.IsBare [Scalar R] (r : Report R) : Prop where
  isPartial : r.isPartial = true
  boundaries : r.boundaries = []
  recommendations : r.recommendations = []
  analysis : r.analysis = { quality := Scalar.ofNat 0 }
  metrics : r.metrics = Metrics.zero

theorem Report.isBare_stopped [Scalar R] (scanned analyzed nodes : Nat) :
    (Report.stopped scanned analyzed nodes : Report R).IsBare := ⟨rfl, rfl, rfl, rfl, rfl⟩

abbrev Outcome (R : Type) := Report R × List Warning

section Checkpoints

variable {reached : Nat → Bool} {stopped : Nat → Report R} {k : Nat}

structure FirstReached (reached : Nat → Bool) (k j : Nat) : Prop where
  from_le : k ≤ j
  le_four : j ≤ 4
  isReached : reached j = true
  before : ∀ i, k ≤ i → i < j → reached i = false

/-- From checkpoint `k` on an analysis ends as one without a limit does, unless it stops at the first checkpoint where the
limit is reached; before that a fault ends both. -/
def Follows (reached : Nat → Bool) (stopped : Nat → Report R) (k : Nat) (timed untimed : Except Fault (Outcome R)) : Prop :=
  (∃ fault, timed = .error fault ∧ untimed = .error fault) ∨
    (timed = untimed ∧ ∀ j, k ≤ j → j ≤ 4 → reached j = false) ∨
      ∃ j, FirstReached reached k j ∧ ∃ warnings, timed = .ok (stopped j, warnings)

theorem Follows.succ {timed untimed : Except Fault (Outcome R)} (hk : reached k = false)
    (h : Follows reached stopped (k + 1) timed untimed) : Follows reached stopped k timed untimed := by
  have hextend {j : Nat} (hj : ∀ i, k + 1 ≤ i → i < j → reached i = false) : ∀ i, k ≤ i → i < j → reached i = false := by
    intro i hi hij
    obtain rfl | hlt := Nat.eq_or_lt_of_le hi
    · exact hk
    · exact hj i hlt hij
  obtain hfault | ⟨heq, hnone⟩ | ⟨j, hj, hstop⟩ := h
  · exact Or.inl hfault
  · refine Or.inr (Or.inl ⟨heq, fun j hkj hj => ?_⟩)
    exact hextend (fun i hi hij => hnone i hi (by omega)) j hkj (Nat.lt_succ_self j)
  · have hle : k ≤ j := by
      have := hj.from_le
      omega
    exact Or.inr (Or.inr ⟨j, ⟨hle, hj.le_four, hj.isReached, hextend hj.before⟩, hstop⟩)

theorem Follows.checkpoint [Scalar R] {limit started : R} {clock clock' : Clock R} {report report' : Report R}
    {warnings warnings' : List Warning} {timed untimed : Clock R → Except Fault (Outcome R)} (hk : k ≤ 4)
    (hreport : report = stopped k) (hreached : reached k = Scalar.le limit (clock.reading 0 - started))
    (hnext : Follows reached stopped (k + 1) (timed clock.read.2) (untimed clock')) :
    Follows reached stopped k
      ((⟨some limit, started⟩ : Deadline R).unlessExpired clock (report, warnings) timed)
      ((⟨none, started⟩ : Deadline R).unlessExpired clock' (report', warnings') untimed) := by
  rw [Deadline.unlessExpired_some, Deadline.unlessExpired_none, ← hreached]
  cases hexpired : reached k with
  | true =>
    rw [hreport]
    refine Or.inr (Or.inr ⟨k, ⟨Nat.le_refl k, hk, hexpired, ?_⟩, warnings, rfl⟩)
    intro i hi hik
    omega
  | false => exact Follows.succ hexpired hnext

theorem Follows.bind {α : Type} {x : Except Fault α} {timed untimed : α → Except Fault (Outcome R)}
    (h : ∀ a, Follows reached stopped k (timed a) (untimed a)) :
    Follows reached stopped k (x >>= timed) (x >>= untimed) := by
  cases x with
  | error fault => exact Or.inl ⟨fault, rfl, rfl⟩
  | ok a => exact h a

theorem Follows.refl {outcome : Except Fault (Outcome R)} : Follows reached stopped 5 outcome outcome := by
  refine Or.inr (Or.inl ⟨rfl, ?_⟩)
  intro j hj hj'
  omega

end Checkpoints

namespace Discovery

variable [Scalar R] (d : Discovery R) (t : FileTree)

def untimed : Discovery R :=
  { d with settings := ⟨fun s => if s = .timeout then .null else d.settings.value s⟩ }

def reaches (limit : Option R) (k : Nat) : Bool :=
  limit.any fun x => Scalar.le x (d.clock.reading k - d.clock.reading 0)

/-- The report of an analysis that stops at checkpoint `k`. Before the first one there are no declarations yet. -/
def stoppedAt (p : Prepared) (k : Nat) : Report R :=
  .stopped p.scanned.length p.files.length (if k = 1 then 0 else (Source.inventory t d.root p.files).1.size)

inductive HasBadSource (fault : Fault) : Prop where
  | root (h : Scan.checkRoot t d.root = .error fault)
  | boundaryFile {path : String} (hroot : Scan.checkRoot t d.root = .ok ()) (hpath : d.boundaryFile = some path)
      (h : UserBoundary.load R t path = .error fault)

/-- There is nothing that a run without a limit can fail on: its files are chosen, and its settings are of their kinds. -/
structure IsReadable : Prop where
  prepared : ∃ p, d.prepare t = .ok p
  options : ∃ options, d.settings.clusteringOptions = .ok options
  mergeLimit : ∀ count, ∃ limit, d.settings.mergeLimit count = .ok limit
  confidence : ∃ confidence, d.settings.confidence = .ok confidence

theorem follows_stages (limit : R) (p : Prepared) :
    Follows (d.reaches (some limit)) (d.stoppedAt t p) 1
      (d.stages t ⟨some limit, d.clock.reading 0⟩ d.clock.read.2 p)
      (d.untimed.stages t ⟨none, d.clock.reading 0⟩ d.clock.read.2 p) := by
  unfold stages
  -- The clock is read once at each checkpoint, so the reading at checkpoint `k` is that with number `k`.
  refine Follows.checkpoint (R := R) (by omega) rfl ?_ ?_
  · rw [Clock.reading_snd_read]
    rfl
  refine Follows.checkpoint (R := R) (by omega) rfl ?_ ?_
  · rw [Clock.reading_snd_read, Clock.reading_snd_read]
    rfl
  refine Follows.bind fun options => ?_
  refine Follows.checkpoint (R := R) (by omega) rfl ?_ ?_
  · rw [Clock.reading_snd_read, Clock.reading_snd_read, Clock.reading_snd_read]
    rfl
  refine Follows.bind fun mergeLimit => ?_
  refine Follows.checkpoint (R := R) (by omega) rfl ?_ ?_
  · rw [Clock.reading_snd_read, Clock.reading_snd_read, Clock.reading_snd_read, Clock.reading_snd_read]
    rfl
  exact Follows.refl

variable {d t} {limit : Option R} {p : Prepared} {r : Report R} {warnings : List Warning} {fault : Fault}

theorem reports_of_untimed {started : R} {clock : Clock R} (h : d.stages t ⟨none, started⟩ clock p = .ok (r, warnings)) :
    r.isPartial = false ∧ r.filesScanned = p.scanned.length ∧ r.filesAnalyzed = p.files.length ∧
      r.nodeCount = (Source.inventory t d.root p.files).1.size := by
  unfold stages at h
  simp only [Deadline.unlessExpired_none] at h
  obtain ⟨options, -, h⟩ := exists_of_bind_eq_ok h
  obtain ⟨mergeLimit, -, h⟩ := exists_of_bind_eq_ok h
  obtain ⟨confidence, -, h⟩ := exists_of_bind_eq_ok h
  have hreport : _ = r := congrArg Prod.fst (Except.ok.inj h)
  rw [← hreport]
  exact ⟨rfl, rfl, rfl, rfl⟩

theorem run_eq_stages (hlimit : Deadline.limitOf (d.settings.value .timeout) = .ok limit) (hp : d.prepare t = .ok p) :
    d.run t = d.stages t ⟨limit, d.clock.reading 0⟩ d.clock.read.2 p := by
  unfold run
  rw [← Clock.fst_read, hp, hlimit]
  rfl

theorem untimed_run_eq_stages (hp : d.prepare t = .ok p) :
    d.untimed.run t = d.untimed.stages t ⟨none, d.clock.reading 0⟩ d.clock.read.2 p :=
  run_eq_stages rfl hp

theorem untimed_run_counts (hp : d.prepare t = .ok p) (h : d.untimed.run t = .ok (r, warnings)) :
    r.isPartial = false ∧ r.filesScanned = p.scanned.length ∧ r.filesAnalyzed = p.files.length ∧
      r.nodeCount = (Source.inventory t d.root p.files).1.size :=
  reports_of_untimed ((untimed_run_eq_stages hp).symm.trans h)

theorem untimed_run_of_isReadable (h : d.IsReadable t) : ∃ r warnings, d.untimed.run t = .ok (r, warnings) := by
  obtain ⟨⟨p, hp⟩, ⟨options, hoptions⟩, hmergeLimit, ⟨confidence, hconfidence⟩⟩ := h
  have hoptions' : d.untimed.settings.clusteringOptions = .ok options := hoptions
  have hconfidence' : d.untimed.settings.confidence = .ok confidence := hconfidence
  rw [untimed_run_eq_stages hp]
  unfold stages
  simp only [Deadline.unlessExpired_none, hoptions', hconfidence', ok_bind]
  have hmergeLimit' (count : Nat) : ∃ limit, d.untimed.settings.mergeLimit count = .ok limit := hmergeLimit count
  obtain ⟨limit, hlimit⟩ := hmergeLimit' _
  rw [hlimit]
  exact ⟨_, _, rfl⟩

theorem run_of_prepare_error (h : d.prepare t = .error fault) : d.run t = .error fault := by
  unfold run
  rw [h]
  rfl

theorem exists_prepare_of_run (h : d.run t = .ok (r, warnings)) : ∃ p, d.prepare t = .ok p := by
  obtain ⟨p, hp, -⟩ := exists_of_bind_eq_ok h
  exact ⟨p, hp⟩

theorem prepare_of_hasBadSource (h : d.HasBadSource t fault) : d.prepare t = .error fault := by
  rw [prepare]
  cases h with
  | root h =>
    rw [h]
    rfl
  | boundaryFile hroot hpath h =>
    rw [hroot, hpath, ok_bind]
    simp only [h]
    rfl

theorem follows_run (hlimit : Deadline.limitOf (d.settings.value .timeout) = .ok limit) (hp : d.prepare t = .ok p) :
    Follows (d.reaches limit) (d.stoppedAt t p) 1 (d.run t) (d.untimed.run t) := by
  rw [run_eq_stages hlimit hp, untimed_run_eq_stages hp]
  cases limit with
  | none => exact Or.inr (Or.inl ⟨rfl, fun _ _ _ => rfl⟩)
  | some limit => exact follows_stages d t limit p

/-- An analysis ends as one without a limit does, or with a bare report of what is done at the first checkpoint where the
limit is reached. A root that is no directory and a bad boundary file are faults whatever the clock says. -/
theorem run_of_limit (d : Discovery R) (t : FileTree) {limit : Option R}
    (hlimit : Deadline.limitOf (d.settings.value .timeout) = .ok limit) :
    (∀ fault, d.HasBadSource t fault → ∀ clock, { d with clock := clock }.run t = .error fault) ∧
      (d.run t = d.untimed.run t ∨
        ∃ k r warnings, FirstReached (d.reaches limit) 1 k ∧ d.run t = .ok (r, warnings) ∧ r.IsBare ∧
          ∀ r' warnings', d.untimed.run t = .ok (r', warnings') →
            r.filesScanned = r'.filesScanned ∧ r.filesAnalyzed = r'.filesAnalyzed ∧
              r.nodeCount = if k = 1 then 0 else r'.nodeCount) ∧
        (∀ r warnings, d.run t = .ok (r, warnings) →
          (r.isPartial = true ↔ ∃ k, 1 ≤ k ∧ k ≤ 4 ∧ d.reaches limit k = true)) ∧
          (d.IsReadable t → ∃ r' warnings', d.untimed.run t = .ok (r', warnings') ∧ r'.isPartial = false) := by
  refine ⟨fun fault h clock => ?_, ?_, ?_, fun h => ?_⟩
  · have hprepare := prepare_of_hasBadSource h
    exact run_of_prepare_error (d := { d with clock := clock }) hprepare
  · cases hp : d.prepare t with
    | error fault =>
      have huntimed : d.untimed.run t = .error fault := run_of_prepare_error hp
      exact Or.inl ((run_of_prepare_error hp).trans huntimed.symm)
    | ok p =>
      obtain ⟨fault, htimed, huntimed⟩ | ⟨heq, -⟩ | ⟨k, hk, warnings, hstop⟩ := follows_run hlimit hp
      · exact Or.inl (htimed.trans huntimed.symm)
      · exact Or.inl heq
      · refine Or.inr ⟨k, _, warnings, hk, hstop, Report.isBare_stopped _ _ _, fun r' warnings' h => ?_⟩
        obtain ⟨-, hscanned, hanalyzed, hnodes⟩ := untimed_run_counts hp h
        rw [hscanned, hanalyzed, hnodes]
        exact ⟨rfl, rfl, apply_ite Nat.cast (k = 1) 0 _⟩
  · intro r warnings h
    obtain ⟨p, hp⟩ := exists_prepare_of_run h
    obtain ⟨fault, htimed, -⟩ | ⟨heq, hnone⟩ | ⟨k, hk, warnings', hstop⟩ := follows_run hlimit hp
    · rw [htimed] at h
      cases h
    · obtain ⟨hcomplete, -⟩ := untimed_run_counts hp (heq ▸ h)
      rw [hcomplete]
      constructor
      · intro hpartial
        cases hpartial
      · rintro ⟨k, hk, hk', hreached⟩
        rw [hnone k hk hk'] at hreached
        cases hreached
    · rw [hstop] at h
      cases h
      exact iff_of_true rfl ⟨k, hk.from_le, hk.le_four, hk.isReached⟩
  · obtain ⟨p, hp⟩ := h.prepared
    obtain ⟨r', warnings', hrun⟩ := untimed_run_of_isReadable h
    exact ⟨r', warnings', hrun, (untimed_run_counts hp hrun).1⟩

def shopTree : FileTree := ⟨[(["shop"], .directory), (["shop", "cart.go"], .file [])]⟩

def shopRequest : Discovery Rat where
  root := "shop"
  settings := ⟨fun
    | .timeout => .number 5
    | .excludes => .list []
    | .sampling => .text "none"
    | s => s.default⟩
  strategies := []
  clock := .ofReadings [0, 1, 7]

theorem isReadable_shopRequest : shopRequest.IsReadable shopTree := by
  have hfiles : (shopRequest.prepare shopTree).toOption.map (·.files) = some ["cart.go"] := by decide +kernel
  cases hp : shopRequest.prepare shopTree with
  | error fault =>
    rw [hp] at hfiles
    cases hfiles
  | ok p => exact ⟨⟨p, hp⟩, ⟨_, rfl⟩, fun _ => ⟨_, rfl⟩, ⟨_, rfl⟩⟩

theorem run_of_limit_shopRequest :
    Deadline.limitOf (shopRequest.settings.value .timeout) = .ok (some 5) ∧
      FirstReached (shopRequest.reaches (some 5)) 1 2 ∧
        ∃ r warnings, shopRequest.run shopTree = .ok (r, warnings) ∧ r.IsBare := by
  have hlimit : Deadline.limitOf (shopRequest.settings.value .timeout) = .ok (some 5) := rfl
  have hreached : FirstReached (shopRequest.reaches (some 5)) 1 2 := by
    refine ⟨by decide, by decide, by decide +kernel, fun i hi hi' => ?_⟩
    rw [show i = 1 by omega]
    decide +kernel
  obtain ⟨-, hrun, hpartial, huntimed⟩ := run_of_limit shopRequest shopTree hlimit
  refine ⟨hlimit, hreached, ?_⟩
  obtain heq | ⟨-, r, warnings, -, hstopped, hbare, -⟩ := hrun
  · obtain ⟨r, warnings, hcomplete, hnot⟩ := huntimed isReadable_shopRequest
    have htrue := (hpartial r warnings (heq.trans hcomplete)).2 ⟨2, by decide, by decide, hreached.isReached⟩
    rw [hnot] at htrue
    cases htrue
  · exact ⟨r, warnings, hstopped, hbare⟩

end Discovery

end Demarcation
