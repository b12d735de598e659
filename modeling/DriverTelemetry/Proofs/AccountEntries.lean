import DriverTelemetry.Proofs.CallSteps

/-!
# Entries in the accounts

Tracking an allocation, freeing one and looking for leaks are small steps too, but not quiet ones.
Each of them makes one entry in the accounts of a core, and takes quiet steps before and after it.
`System.Scans` is a run of steady steps and of scans for leaks, with what the scans answer: an
analytics cycle, a system check and a slice of time of the analytics collector are such runs.
-/

namespace DriverTelemetry

namespace AllocationTracker

variable {t t' : AllocationTracker} {record : AllocationRecord}

theorem perform_alloc_ok (h : t.trackAlloc record = .ok t') :
    (t.perform (.alloc record)).2 = t' := by
  rw [perform, h]

theorem perform_alloc_error {e : TelemetryError} (h : t.trackAlloc record = .error e) :
    (t.perform (.alloc record)).2 = t := by
  rw [perform, h]

theorem perform_free_ok {address : Nat} (h : t.trackFree address = .ok (record, t')) :
    (t.perform (.free address)).2 = t' := by
  rw [perform, h]

end AllocationTracker

namespace System

variable {s : System}

/-- Tracking an allocation reads the clock and asks the tracker; if the tracker takes the record,
its size goes to the predefined metric. -/
theorem trackAlloc_cases (hready : s.core.initialized = true) (address size : Nat) (file : String)
    (line : Nat) (owner : Option DriverId) :
    ∃ u record, u.core = s.core ∧ record.address = address ∧ record.size = size ∧
      s.SteadySteps [] u ∧
      ((∃ e, u.core.tracker.trackAlloc record = .error e ∧
          (s.call (Core.trackAlloc address size file line owner)).2 = u) ∨
        ∃ tracker, u.core.tracker.trackAlloc record = .ok tracker ∧
          (s.call (Core.trackAlloc address size file line owner)).2 =
            ((Core.adjustTrackedMemory (SignedWord.wrap size)).run
              { u with core.tracker := tracker }).2) := by
  let u := (Core.readClock.run s).2
  let record : AllocationRecord :=
    { address, size, allocatedNs := (Core.readClock.run s).1, file, line,
      thread := u.env.platform.thread, owner }
  refine ⟨u, record, rfl, rfl, rfl, Core.steady_readClock s, ?_⟩
  have hrun : s.call (Core.trackAlloc address size file line owner) =
      u.call (Core.onTracker (fun t => (t.trackAlloc record).map ((), ·)) >>= fun _ =>
        (Core.adjustTrackedMemory (SignedWord.wrap size) : Action Unit)) :=
    call_ready hready _
  rw [hrun]
  cases htrack : u.core.tracker.trackAlloc record with
  | error e =>
    have herror : u.call (Core.onTracker fun t => (t.trackAlloc record).map ((), ·)) =
        (.error e, u) := call_onTracker_error (by rw [htrack]; rfl)
    rw [call_andThen_error herror]
    exact .inl ⟨e, rfl, rfl⟩
  | ok tracker =>
    have hok : u.call (Core.onTracker fun t => (t.trackAlloc record).map ((), ·)) =
        (.ok (), { u with core.tracker := tracker }) := call_onTracker_ok (by rw [htrack]; rfl)
    rw [call_andThen_ok hok]
    exact .inr ⟨tracker, rfl, rfl⟩

/-- An allocation does to the accounts what the tracker makes of it. -/
theorem trackAlloc_steps (hready : s.core.initialized = true) (address size : Nat) (file : String)
    (line : Nat) (owner : Option DriverId) :
    ∃ u record, s.QuietSteps u ∧
      QuietSteps { u with core.tracker := (u.core.tracker.perform (.alloc record)).2 }
        (s.call (Core.trackAlloc address size file line owner)).2 := by
  obtain ⟨u, record, -, -, -, hbefore, hcases⟩ :=
    trackAlloc_cases hready address size file line owner
  refine ⟨u, record, hbefore.quiet, ?_⟩
  obtain ⟨e, htrack, hafter⟩ | ⟨tracker, htrack, hafter⟩ := hcases
  · rw [hafter, AllocationTracker.perform_alloc_error htrack]
  · rw [hafter, AllocationTracker.perform_alloc_ok htrack]
    exact Core.stepwise_adjustTrackedMemory _ _

/-- Freeing an address that the tracker knows takes the size of the record from the predefined
metric; an address that is unknown to the tracker is counted. -/
theorem trackFree_cases (hready : s.core.initialized = true) (address : Nat) :
    (∃ record tracker, s.core.tracker.trackFree address = .ok (record, tracker) ∧
      s.call (Core.trackFree address) =
        (.ok (), ((Core.adjustTrackedMemory
          (SignedWord.wrap (-SignedWord.wrap record.size))).run
            { s with core.tracker := tracker }).2)) ∨
    ((s.call (Core.trackFree address)).1 = .error .notFound ∧
      SteadySteps []
        { s with core.counters.untrackedFrees := s.core.counters.untrackedFrees + 1 }
        (s.call (Core.trackFree address)).2) := by
  have hrun : s.call (Core.trackFree address) = s.call (Core.ensureReady >>= fun _ => _) := rfl
  rw [hrun, call_ready hready, call_get_andThen]
  by_cases hmem : ∃ r ∈ s.core.tracker.live, r.address = address
  · obtain ⟨⟨record, tracker⟩, hok⟩ := (AllocationTracker.trackFree_ok_iff _ _).2 hmem
    rw [hok]
    exact .inl ⟨record, tracker, rfl, rfl⟩
  · have hunknown := AllocationTracker.trackFree_of_unknown fun r hr heq => hmem ⟨r, hr, heq⟩
    right
    rw [hunknown]
    dsimp only
    rw [if_pos rfl]
    refine ⟨rfl, Core.steady_emitText .warning .core ?_ Core.Opens.refl.append _⟩
    exact (by decide : Core.Apart "Attempted to free untracked memory address ")

/-- A free does to the accounts what the tracker makes of it; an address that is unknown to the
tracker is counted. -/
theorem trackFree_steps (hready : s.core.initialized = true) (address : Nat) :
    ((s.call (Core.trackFree address)).1 = .ok () ∧
      QuietSteps { s with core.tracker := (s.core.tracker.perform (.free address)).2 }
        (s.call (Core.trackFree address)).2) ∨
    ((s.call (Core.trackFree address)).1 = .error .notFound ∧
      QuietSteps
        { s with core.counters.untrackedFrees := s.core.counters.untrackedFrees + 1 }
        (s.call (Core.trackFree address)).2) := by
  obtain ⟨record, tracker, hfree, hrun⟩ | ⟨hunknown, hafter⟩ := trackFree_cases hready address
  · rw [hrun, AllocationTracker.perform_free_ok hfree]
    exact .inl ⟨rfl, Core.stepwise_adjustTrackedMemory _ _⟩
  · exact .inr ⟨hunknown, hafter.quiet⟩

theorem forM_reportLeak (leaks : List Leak) (s : System) :
    ∃ u, s.call (leaks.forM fun leak => (liftM (Core.reportLeak leak) : Call Unit)) =
        (.ok (), u) ∧ s.SteadySteps [] u := by
  induction leaks generalizing s with
  | nil => exact ⟨s, rfl, .refl⟩
  | cons leak rest ih =>
    obtain ⟨u, hrun, hsteps⟩ := ih ((Core.reportLeak leak).run s).2
    exact ⟨u, hrun, (Core.steady_reportLeak leak s).trans hsteps⟩

/-- What a scan does with what the tracker has found: it counts the new leaks that it answers. -/
theorem reportScan_steps (scan : LeakScan) (s : System) :
    ∃ summary u t, s.call (do
        scan.newLeaks.forM fun leak => (Core.reportLeak leak : Action Unit)
        let summary : LeakSummary :=
          { newLeaks := scan.newLeaks.length, leaks := scan.outstanding,
            bytes := scan.outstandingBytes }
        if 0 < summary.newLeaks then
          Core.count fun s => { s with leaksDetected := s.leaksDetected + summary.newLeaks }
          Core.emitText .error .core
            s!"Memory leak summary: {summary.leaks} leaks totaling {summary.bytes} bytes"
        return summary : Call LeakSummary) = (.ok summary, t) ∧ s.SteadySteps [] u ∧
      SteadySteps []
        { u with
          core.counters.leaksDetected := u.core.counters.leaksDetected + summary.newLeaks } t := by
  obtain ⟨u, hreports, hsteady⟩ := forM_reportLeak scan.newLeaks s
  rw [call_andThen_ok hreports]
  dsimp only
  split
  · refine ⟨_, u, _, rfl, hsteady, ?_⟩
    exact Core.steady_emitText .error .core (by decide : Core.Apart "Memory leak summary: ")
      Core.Opens.refl.append.append.append.append _
  · rename_i hnone
    have hzero : scan.newLeaks.length = 0 := Nat.eq_zero_of_not_pos hnone
    refine ⟨_, u, u, rfl, hsteady, ?_⟩
    rw [hzero]
    exact .refl

theorem scanLeaks_steps (hready : s.core.initialized = true) (thresholdMs : Nat) :
    ∃ summary u t, s.call (Core.scanLeaks thresholdMs) = (.ok summary, t) ∧ s.SteadySteps [] u ∧
      SteadySteps []
        { u with
          core.counters.leaksDetected := u.core.counters.leaksDetected + summary.newLeaks } t := by
  let read := (Core.readClock.run s).2
  let now := (Core.readClock.run s).1
  let thresholdNs := Word.satMul thresholdMs nsPerMs
  have hread : s.SteadySteps [] read := Core.steady_readClock s
  have hscanned : Steadily [] Step read _ :=
    ⟨⟨.leaksScanned now thresholdNs, sameAccounts_scanned _ _ _⟩, .of_gauges_eq rfl⟩
  have hrun : s.call (Core.scanLeaks thresholdMs) = s.call (Core.ensureReady >>= fun _ => _) := rfl
  rw [hrun, call_ready hready, call_lift_andThen, call_get_andThen]
  cases hscan : read.core.tracker.scan now thresholdNs with
  | mk scan tracker =>
    rw [hscan] at hscanned
    dsimp only
    rw [call_lift_andThen]
    obtain ⟨summary, u, t, hreported, hbefore, hafter⟩ :=
      reportScan_steps scan { read with core.tracker := tracker }
    exact ⟨summary, u, t, hreported, (hread.tail hscanned).trans hbefore, hafter⟩

/-- A run of steady steps and of scans that answer what is listed. -/
inductive Scans : System → List LeakSummary → System → Prop
  | steady {s t : System} (h : s.SteadySteps [] t) : Scans s [] t
  | scan {s t u : System} {summary : LeakSummary} {l : List LeakSummary}
      (hbefore : s.SteadySteps [] t)
      (rest : Scans
        { t with
          core.counters.leaksDetected := t.core.counters.leaksDetected + summary.newLeaks } l u) :
      Scans s (summary :: l) u

namespace Scans

variable {s t u : System} {l : List LeakSummary}

theorem tail (h : s.Scans l t) (hafter : t.SteadySteps [] u) : s.Scans l u := by
  induction h with
  | steady hsteady => exact .steady (hsteady.trans hafter)
  | scan hbefore _ ih => exact .scan hbefore (ih hafter)

theorem head (hbefore : s.SteadySteps [] t) (h : t.Scans l u) : s.Scans l u := by
  cases h with
  | steady hsteady => exact .steady (hbefore.trans hsteady)
  | scan hfirst rest => exact .scan (hbefore.trans hfirst) rest

theorem leaks_eq (h : s.Scans l t) :
    t.core.counters.leaksDetected =
      s.core.counters.leaksDetected + (l.map (·.newLeaks)).sum := by
  induction h with
  | steady hsteady => exact hsteady.quiet.sameAccounts.leaks_eq
  | scan hbefore _ ih =>
    have hsame := hbefore.quiet.sameAccounts.leaks_eq
    rw [ih, List.map_cons, List.sum_cons]
    dsimp only
    omega

/-- A run of steady steps and scans keeps to a preorder that holds both. -/
theorem related {R : System → System → Prop} [IsPreorder System R]
    (hsteady : ∀ {s t : System}, Steadily [] Step s t → R s t)
    (hcount : ∀ (s : System) (n : Nat),
      R s { s with core.counters.leaksDetected := s.core.counters.leaksDetected + n })
    (h : s.Scans l t) : R s t := by
  induction h with
  | steady hsteps => exact related_of_chain (R := R) hsteady hsteps
  | scan hbefore _ ih =>
    have hfirst := related_of_chain (R := R) hsteady hbefore
    exact trans_of R hfirst (trans_of R (hcount _ _) ih)

theorem steps (h : s.Scans l t) : s.Steps t :=
  h.related (fun hsteady => .single hsteady.1.1) fun _ n => .single (.leaksCounted n)

section Calls

variable {α β : Type} {c : Call α} {f : α → Call β}

theorem andThen (h : s.Scans l (s.call c).2) (hf : ∀ x, Core.Steady (f x).run) :
    s.Scans l (s.call (c >>= f)).2 := by
  obtain ⟨x, t, hrun, hwhole⟩ | ⟨e, t, hrun, hwhole⟩ := s.call_andThen_cases c f
  · rw [hrun] at h
    rw [hwhole]
    exact h.tail (hf x t)
  · rw [hrun] at h
    rw [hwhole]
    exact h

end Calls

end Scans

/-- What a scan answers, unless it fails. -/
def scanned (s : System) (thresholdMs : Nat) : List LeakSummary :=
  match (s.call (Core.scanLeaks thresholdMs)).1 with
  | .ok summary => [summary]
  | .error _ => []

/-- The scans that follow a call, unless the call fails. -/
def scansAfter {α : Type} (s : System) (c : Call α) (f : System → List LeakSummary) :
    List LeakSummary :=
  match s.call c with
  | (.ok _, t) => f t
  | (.error _, _) => []

/-- The scan in an analytics cycle of a core that accepts calls. It follows the sweep for
anomalies. -/
def cycleScans (s : System) : List LeakSummary :=
  let config := s.core.config
  let sweep : Call Nat := if config.anomalyDetection then Core.detectAnomalies else pure 0
  if s.core.initialized then s.scansAfter sweep (·.scanned config.leakThresholdMs.toNat) else []

/-- The scan in a system check. It follows the check of memory. -/
def checkScans (s : System) : List LeakSummary :=
  let beginning : Call Nat := do
    let _ ← Core.log .info .core "Starting comprehensive system health check"
    Core.checkMemory
  s.scansAfter beginning fun t => t.scanned t.core.config.leakThresholdMs.toNat

/-- The scan in a slice of time of the analytics collector. -/
def collectorScans (s : System) : List LeakSummary :=
  match s.core.collectors.find? (·.kind = .analytics) with
  | some collector => if 0 < collector.pauseMs then [] else s.cycleScans
  | none => []

theorem scans_scanLeaks (s : System) (thresholdMs : Nat) :
    s.Scans (s.scanned thresholdMs) (s.call (Core.scanLeaks thresholdMs)).2 := by
  unfold scanned
  cases hready : s.core.initialized with
  | false =>
    have hrun : s.call (Core.scanLeaks thresholdMs) = s.call (Core.ensureReady >>= _) := rfl
    rw [hrun, call_unready hready]
    exact .steady .refl
  | true =>
    obtain ⟨summary, u, t, hscan, hbefore, hafter⟩ := scanLeaks_steps hready thresholdMs
    rw [hscan]
    exact .scan hbefore (.steady hafter)

theorem scans_andThen {α β : Type} {c : Call α} {f : α → Call β} {g : System → List LeakSummary}
    (hc : Core.Steady c.run) (hf : ∀ x t, Scans t (g t) (t.call (f x)).2) (s : System) :
    s.Scans (s.scansAfter c g) (s.call (c >>= f)).2 := by
  have hsteady := hc s
  change s.SteadySteps [] (s.call c).2 at hsteady
  unfold scansAfter
  obtain ⟨x, t, hrun, hwhole⟩ | ⟨e, t, hrun, hwhole⟩ := s.call_andThen_cases c f
  · rw [hrun] at hsteady
    rw [hwhole, hrun]
    exact .head hsteady (hf x t)
  · rw [hrun] at hsteady
    rw [hwhole, hrun]
    exact .steady hsteady

/-- What an analytics cycle does from its scan on. -/
theorem scans_cycleEnd (config : Config) (anomalies : Nat) (s : System) :
    s.Scans (s.scanned config.leakThresholdMs.toNat) (s.call (do
      let leaks := (← Core.scanLeaks config.leakThresholdMs.toNat).newLeaks
      let cycle := (← get).core.analyticsCycles + 1
      Core.change fun c => { c with analyticsCycles := cycle }
      let predicted := config.predictiveAnalytics && cycle % config.predictionEvery.toNat == 0
      if predicted then Core.predict
      return { anomalies, leaks, predicted } : Call AnalyticsCycle)).2 := by
  refine (scans_scanLeaks s _).andThen fun summary => .andThen (.lift .get) fun t => ?_
  refine .andThen (.lift (.change fun _ => .single (.of_eq (.cycled _) rfl rfl))) fun _ => ?_
  dsimp only
  split
  · exact .andThen (.lift Core.steady_predict) fun _ => .ok _
  · exact .ok _

theorem scans_runAnalyticsCycle (s : System) :
    s.Scans s.cycleScans (s.call Core.runAnalyticsCycle).2 := by
  have hrun : s.call Core.runAnalyticsCycle = s.call (Core.ensureReady >>= fun _ => _) := rfl
  have hend := fun anomalies t => scans_cycleEnd s.core.config anomalies t
  unfold cycleScans
  cases hready : s.core.initialized with
  | false =>
    rw [hrun, call_unready hready]
    exact .steady .refl
  | true =>
    rw [hrun, call_ready hready, call_get_andThen]
    dsimp only
    cases s.core.config.anomalyDetection with
    | true => exact scans_andThen Core.steady_detectAnomalies hend s
    | false => exact scans_andThen (Core.Within.ok 0) hend s

theorem scans_systemHealthCheck (s : System) :
    s.Scans s.checkScans (s.call Core.systemHealthCheck).2 := by
  have hbeginning : Core.Steady (do
      let _ ← Core.log .info .core "Starting comprehensive system health check"
      Core.checkMemory : Call Nat).run :=
    (Core.steady_log _ _
      (by decide : Core.Apart "Starting comprehensive system health check") .refl).andThen
        fun _ => Core.steady_checkMemory
  -- what comes before the scan is one steady call
  have hrun : s.call Core.systemHealthCheck = s.call (do
      let memoryIssues ← (do
        let _ ← Core.log .info .core "Starting comprehensive system health check"
        Core.checkMemory)
      let thresholdMs := (← get).core.config.leakThresholdMs.toNat
      let leakIssues := if 0 < (← Core.scanLeaks thresholdMs).newLeaks then 1 else 0
      let issues := memoryIssues + leakIssues + (← get).core.health.failingCount
      let _ ← Core.generateReport Report.defaultLimit
      let _ ← Core.log .info .core s!"System health check completed, {issues} issues found"
      return issues) := by
    rw [bind_assoc]
    rfl
  rw [hrun]
  refine scans_andThen hbeginning (fun memory t => ?_) s
  rw [call_get_andThen]
  refine (scans_scanLeaks t _).andThen fun summary => .andThen (.lift .get) fun u => ?_
  refine (Core.steady_generateReport _).andThen fun _ => ?_
  exact (Core.steady_log _ _ (by decide : Core.Apart "System health check completed, ")
    Core.Opens.refl.append.append).andThen fun _ => .ok _

theorem scans_slice_analytics (s : System) :
    s.Scans s.collectorScans ((Core.slice .analytics).run s).2 := by
  unfold collectorScans Core.slice
  rw [Core.run_get_bind]
  cases hfind : s.core.collectors.find? (·.kind = .analytics) with
  | none => exact .steady .refl
  | some collector =>
    have hkind : collector.kind = .analytics := by simpa using List.find?_some hfind
    dsimp only
    split
    · exact .steady (Core.steady_putCollector _ _ s)
    · have htick : ((Core.tick collector).run s).2 = (s.call Core.runAnalyticsCycle).2 := by
        unfold Core.tick
        rw [hkind]
        rfl
      have hcycle := scans_runAnalyticsCycle s
      rw [← htick] at hcycle
      exact hcycle.tail (Core.steady_putCollector _ _ _)

end System

end DriverTelemetry
