import DriverTelemetry.Proofs.SmallSteps
import DriverTelemetry.Proofs.MetricHistory

/-!
# Every call takes small steps

Call by call: whatever a producer, a supervisor or a collector asks of a core, other than to log a
message, to register or evaluate drivers, to track an allocation or its end or to look for leaks, is
`Core.Steady`, but for the metrics of which it sets the levels. All that starting a core does to it
after its tables have been created is `Core.Stepwise`.
-/

namespace DriverTelemetry

/-- The metrics of which a sample of the platform sets the levels. -/
def PredefinedMetrics.sampled (p : PredefinedMetrics) : List MetricId :=
  [p.memoryUsage, p.cpuUsage, p.deviceCount]

/-- The metric of which a transfer in a subsystem sets the level, if it has one. -/
def MetricBundle.bandwidthIds (b : MetricBundle) (subsystem : Subsystem) : List MetricId :=
  ((MetricBundle.bandwidthName? subsystem).map b.id).toList

namespace Core

variable {α : Type}

section Events

theorem steady_ensureReady : Steady ensureReady.run := by
  refine .get_andThen fun s => ?_
  split
  · exact .refl
  · exact .refl

theorem steady_emit (severity : Severity) (subsystem : Subsystem) {fill : Payload → Payload}
    (h : Neutral (fill .blank).message) : Steady (emit severity subsystem fill) :=
  fun _ => .single (.of_eq (.emitted severity subsystem h) rfl rfl)

theorem steady_emitText (severity : Severity) (subsystem : Subsystem) {opening message : String}
    (happart : Apart opening) (h : Opens opening message) :
    Steady (emitText severity subsystem message) :=
  (steady_emit _ _ (neutral_setMessage happart h)).bind fun _ => .pure _

theorem steady_log (severity : Severity) (subsystem : Subsystem) {opening message : String}
    (happart : Apart opening) (h : Opens opening message) :
    Steady (log severity subsystem message).run :=
  steady_ensureReady.andThen fun _ => .lift (steady_emit _ _ (neutral_setMessage happart h))

theorem steady_check (holds : Bool) (condition file : String) (line : Nat)
    (subsystem : Subsystem) : Steady (check holds condition file line subsystem) := by
  refine Within.get.bind fun s => ?_
  split
  · exact steady_emitText _ _ (by decide : Apart "Assertion failed: ")
      Opens.refl.append.append.append.append.append
  · exact .pure _

theorem steady_drainEvents : Steady drainEvents.run :=
  steady_ensureReady.andThen fun _ => .andThen (.lift .get) fun _ => .ok _

theorem steady_recentEvents (count : Nat) : Steady (recentEvents count).run :=
  steady_ensureReady.andThen fun _ => .andThen (.lift .get) fun _ => .ok _

theorem steady_internalError (what : String) : Steady (internalError what) :=
  (steady_emitText _ _ (by decide : Apart "Internal error: ") Opens.refl.append).bind
    fun _ => .pure _

theorem steady_platformError (e : PlatformError) : Steady (platformError e) := by
  unfold platformError
  split
  · exact steady_internalError _
  · exact .pure _

theorem steady_readClock : Steady readClock :=
  fun _ => .single (.of_eq (.surroundings _ rfl (.inl rfl)) rfl rfl)

theorem steady_readRegistry (f : Registry → Except TelemetryError α) :
    Steady (readRegistry f).run := by
  refine .get_andThen fun s => ?_
  split
  · exact .refl
  · exact .refl

theorem steady_readHealth (f : HealthTable → Except TelemetryError α) :
    Steady (readHealth f).run := by
  refine .get_andThen fun s => ?_
  split
  · exact .refl
  · exact .refl

theorem steady_onRegistry {f : Registry → Except TelemetryError (α × Registry)}
    (hf : ∀ s : System, ∀ a r, f s.core.registry = .ok (a, r) →
      s.SteadySteps [] { s with core.registry := r }) : Steady (onRegistry f).run := by
  refine .get_andThen fun s => ?_
  split
  · rename_i a r hok
    exact hf s a r hok
  · exact .refl

end Events

section Metrics

theorem steady_registerMetric (name description : String) (kind : MetricKind)
    (subsystem : Subsystem) :
    Steady (registerMetric name description kind subsystem).run := by
  refine steady_ensureReady.andThen fun _ => .andThen (.lift steady_readClock) fun now => ?_
  refine .andThen (steady_onRegistry fun s id r hok =>
    .single (.of_registry (.metricRegistered hok) rfl rfl (Registry.keepsLevels_register hok)))
    fun id => .andThen (.lift (steady_emit _ _ ?_)) fun _ => .ok _
  exact neutral_setMessage (by decide : Apart "Registered metric '")
    Opens.refl.append.append.append.append.append.append

/-- A way to update a metric: the registry's own, which keeps its kind, with a verdict that may have
to wait. Unless the metric is one of those left out, no value with a level takes it. -/
def IsUpdate (but : List MetricId) (id : MetricId)
    (f : Registry → Nat → Except TelemetryError (α × Registry)) : Prop :=
  ∀ r nowNs a r', f r nowNs = .ok (a, r') →
    ∃ (g : MetricValue → Option MetricValue) (before : Metric) (after : Registry)
      (verdict : Option Anomaly.Verdict),
      r.update id nowNs g = .ok (before, after) ∧ r' = after.enqueue? verdict ∧
      MetricValue.KeepsKind g ∧ (id ∈ but ∨ MetricValue.Accumulating g)

theorem steady_applyUpdate {but : List MetricId} {id : MetricId}
    {f : Registry → Nat → Except TelemetryError (α × Registry)} (hf : IsUpdate but id f) :
    SteadyBut but (applyUpdate id f).run := by
  refine (steady_ensureReady.but but).andThen fun _ => .get_andThen fun s => ?_
  split
  · change s.SteadySteps but (System.call (readClock.run s).2
      (onRegistry (fun r => f r (readClock.run s).1) >>= _)).2
    cases hok : f s.core.registry (readClock.run s).1 with
    | error e =>
      rw [System.call_andThen_error (System.call_onRegistry_error hok)]
      exact .single (.of_eq (.surroundings _ rfl (.inl rfl)) rfl rfl)
    | ok answer =>
      obtain ⟨g, before, after, verdict, hupdate, hr, hkind, hsort⟩ := hf _ _ _ _ hok
      rw [System.call_andThen_ok (System.call_onRegistry_ok hok), hr]
      -- The clock is read once more between the update and the note of what it has cost.
      let env := ((readClock.run (readClock.run s).2).2).env
      have hclock : s.SteadySteps but { s with env } :=
        .single (.of_eq (.surroundings env rfl (.inl rfl)) rfl rfl)
      refine hclock.tail (.of_registry
        (@System.Step.metricUpdated { s with env } _ _ _ _ _ hupdate hkind verdict _) rfl rfl ?_)
      have hqueued : after.KeepsLevels but (after.enqueue? verdict) :=
        .of_metrics_eq (Registry.metrics_enqueue? after verdict)
      exact (Registry.keepsLevels_update hsort hupdate).trans
        (hqueued.trans (Registry.keepsLevels_noteOverhead _ _ _))
  · exact .refl

theorem map_unit_ok {x : Except TelemetryError α} {u : Unit} {a : α}
    (h : x.map ((), ·) = .ok (u, a)) : x = .ok a := by
  cases x with
  | error e => cases h
  | ok b =>
    cases h
    rfl

theorem isUpdate_addCount (but : List MetricId) (id : MetricId) (amount : Nat) :
    IsUpdate but id fun r now => (r.addCount id amount now).map ((), ·) := by
  intro r now a r' h
  obtain ⟨⟨before, updated⟩, hupdate, hok⟩ := Registry.bind_eq_ok (map_unit_ok h)
  cases hok
  exact ⟨_, _, _, _, hupdate, rfl, MetricValue.keepsKind_addCount amount,
    .inr (MetricValue.accumulating_addCount amount)⟩

theorem isUpdate_recordSample (but : List MetricId) (id : MetricId) (sample : Nat) :
    IsUpdate but id fun r now => (r.recordSample id sample now).map ((), ·) := by
  intro r now a r' h
  obtain ⟨⟨before, updated⟩, hupdate, hok⟩ := Registry.bind_eq_ok (map_unit_ok h)
  cases hok
  exact ⟨_, _, _, _, hupdate, rfl, MetricValue.keepsKind_recordSample sample,
    .inr (MetricValue.accumulating_recordSample sample)⟩

theorem isUpdate_recordDuration (but : List MetricId) (id : MetricId) (durationNs : Nat) :
    IsUpdate but id fun r now => (r.recordDuration id durationNs now).map ((), ·) := by
  intro r now a r' h
  obtain ⟨⟨before, updated⟩, hupdate, hok⟩ := Registry.bind_eq_ok (map_unit_ok h)
  cases hok
  exact ⟨_, _, _, none, hupdate, rfl, MetricValue.keepsKind_recordDuration durationNs,
    .inr (MetricValue.accumulating_recordDuration durationNs)⟩

theorem isUpdate_setLevel (id : MetricId) (level : Int) :
    IsUpdate [id] id fun r now => r.setLevel id level now := by
  intro r now a r' h
  obtain ⟨⟨before, updated⟩, hupdate, h⟩ := Registry.bind_eq_ok h
  cases h
  exact ⟨_, _, _, none, hupdate, rfl, MetricValue.keepsKind_setLevel level,
    .inl (List.mem_singleton_self id)⟩

theorem isUpdate_adjustLevel (id : MetricId) (delta : Int) :
    IsUpdate [id] id fun r now => r.adjustLevel id delta now := by
  intro r now a r' h
  obtain ⟨⟨before, updated⟩, hupdate, h⟩ := Registry.bind_eq_ok h
  cases h
  exact ⟨_, _, _, none, hupdate, rfl, MetricValue.keepsKind_adjustLevel delta,
    .inl (List.mem_singleton_self id)⟩

theorem steady_updateCounter (id : MetricId) (amount : Nat) :
    Steady (updateCounter id amount).run :=
  (steady_applyUpdate (isUpdate_addCount [] id amount)).andThen fun _ => .ok _

theorem steady_adjustGauge (id : MetricId) (delta : Int) :
    SteadyBut [id] (adjustGauge id delta).run :=
  (steady_applyUpdate (isUpdate_adjustLevel id delta)).andThen fun _ => .ok _

theorem steady_recordHistogram (id : MetricId) (sample : Nat) :
    Steady (recordHistogram id sample).run :=
  (steady_applyUpdate (isUpdate_recordSample [] id sample)).andThen fun _ => .ok _

theorem steady_updateTimer (id : MetricId) (durationNs : Nat) :
    Steady (updateTimer id durationNs).run :=
  (steady_applyUpdate (isUpdate_recordDuration [] id durationNs)).andThen fun _ => .ok _

theorem steady_reportAnomaly (v : Anomaly.Verdict) : Steady (reportAnomaly v) := by
  refine Within.bind (.change fun s => .single (.of_eq (.counted 1 0 0) rfl rfl)) fun _ => ?_
  refine Within.get.bind fun s => ?_
  have hopens : Opens "Anomaly detected in metric '" v.text := by
    unfold Anomaly.Verdict.text
    exact Opens.refl.append.append.append.append.append.append.append
  refine (steady_emit _ _ ?_).bind fun _ => .pure _
  exact neutral_setMessage (by decide) hopens

theorem steady_updateGauge (id : MetricId) (level : Int) :
    SteadyBut [id] (updateGauge id level).run := by
  refine (steady_applyUpdate (isUpdate_setLevel id level)).andThen fun answer => ?_
  split
  · exact .lift ((steady_reportAnomaly _).but [id])
  · exact .ok _

theorem steady_setMetricEnabled (id : MetricId) (enabled : Bool) :
    Steady (setMetricEnabled id enabled).run := by
  refine steady_ensureReady.andThen fun _ => steady_onRegistry fun s a r hok => ?_
  have hset := map_unit_ok hok
  exact .single (.of_registry (.metricEnabled hset) rfl rfl (Registry.keepsLevels_setEnabled hset))

theorem steady_lookup (id : MetricId) : Steady (lookup id).run :=
  steady_ensureReady.andThen fun _ => steady_readRegistry _

theorem steady_ratePerSecond (id : MetricId) : Steady (ratePerSecond id).run :=
  steady_ensureReady.andThen fun _ =>
    .andThen (.lift steady_readClock) fun _ => steady_readRegistry _

theorem steady_registerStandardMetrics : Steady registerStandardMetrics.run := by
  refine .andThen (.callMapM (fun spec => ?_) _) fun ids => ?_
  · exact (steady_registerMetric _ _ _ _).andThen fun _ => .ok _
  · have hlog := steady_log .info .core
      (by decide : Apart "Initialized telemetry metrics for all subsystems") .refl
    exact hlog.andThen fun _ => .andThen (.lift .get) fun _ => .ok _

theorem steady_recordBandwidth (b : MetricBundle) (subsystem : Subsystem)
    (bytes durationNs : Nat) :
    SteadyBut (b.bandwidthIds subsystem) (recordBandwidth b subsystem bytes durationNs).run := by
  unfold recordBandwidth MetricBundle.bandwidthIds
  refine .optional (.throw _) ?_
  split
  · rename_i name hname
    rw [hname]
    exact steady_updateGauge _ _
  · exact .andThen (.lift .get) fun _ => (steady_updateCounter _ _).but _

theorem steady_recordError (b : MetricBundle) (subsystem : Subsystem) :
    Steady (recordError b subsystem).run := by
  refine .andThen (.lift .get) fun s => .andThen (steady_updateCounter _ _) fun _ => ?_
  have hlog : Steady (do
      let _ ← log .error subsystem s!"Error recorded in subsystem {subsystem.name}" :
        Call Unit).run :=
    (steady_log _ _ (by decide : Apart "Error recorded in subsystem ")
      Opens.refl.append).andThen fun _ => .ok _
  dsimp only
  split
  · exact (steady_updateCounter _ _).andThen fun _ => hlog
  · exact hlog

end Metrics

section Timers

theorem steady_startTimer (operation : String) : Steady (startTimer operation).run :=
  steady_ensureReady.andThen fun _ => .andThen (.lift steady_readClock) fun _ => .ok _

theorem steady_startTimerFor (operation : String) (id : MetricId) :
    Steady (startTimerFor operation id).run :=
  (steady_startTimer operation).andThen fun _ => .ok _

theorem steady_logLongOperation (t : TimerToken) (durationNs : Nat) :
    Steady (logLongOperation t durationNs) := by
  refine (steady_emit _ _ ?_).bind fun _ => .pure _
  exact neutral_setMessage (by decide : Apart "Long operation detected: '")
    Opens.refl.append.append.append.append

theorem steady_stopTimer (t : TimerToken) : Steady (stopTimer t).run := by
  refine steady_ensureReady.andThen fun _ => .andThen (.lift steady_readClock) fun now => ?_
  refine .andThen (.lift .get) fun s => ?_
  dsimp only
  split
  · refine .optional (.lift (steady_logLongOperation t _)) ?_
    split
    · exact (steady_updateTimer _ _).andThen fun _ => .ok _
    · exact .ok _
  · exact .ok _

end Timers

section Allocations

theorem steady_adjustTrackedMemory (delta : Int) (s : System) :
    s.SteadySteps [s.core.predefined.trackedMemory] ((adjustTrackedMemory delta).run s).2 := by
  unfold adjustTrackedMemory
  rw [run_get_bind]
  dsimp only
  split
  · exact (steady_adjustGauge _ _).bind (fun _ => .pure _) s
  · exact .refl

theorem stepwise_adjustTrackedMemory (delta : Int) : Stepwise (adjustTrackedMemory delta) :=
  fun s => (steady_adjustTrackedMemory delta s).quiet

theorem steady_reportLeak (leak : Leak) : Steady (reportLeak leak) := by
  refine (steady_emit _ _ ?_).bind fun _ => ?_
  · exact neutral_setDetails (neutral_setMessage (by decide : Apart "Memory leak detected: ")
      Opens.refl.append.append.append.append.append.append.append.append)
  split
  · exact .change fun s => .single (.of_eq (.leakNoted _) rfl rfl)
  · exact .pure _

end Allocations

section Shutdown

theorem steady_shutdown : Steady shutdown :=
  fun s => .single (System.steadily_retire s)

theorem steady_readMemoryUsage : Steady readMemoryUsage := by
  refine .get_bind fun s => ?_
  split
  · exact .refl
  · rename_i target htrap
    refine .head (.of_eq (.surroundings { s.env with memoryTrap := none } rfl (.inl rfl)) rfl rfl) ?_
    dsimp only
    split
    · exact steady_shutdown.bind (fun _ => .pure _) _
    · let env := { s.env with memoryTrap := none, condemned := some target }
      exact .single (.of_eq (.surroundings env rfl (.inl rfl)) rfl rfl)

end Shutdown

section Health

theorem steady_driverHealth (id : DriverId) : Steady (driverHealth id).run :=
  steady_ensureReady.andThen fun _ => .andThen (steady_readHealth _) fun _ => .ok _

theorem steady_driverHealthRecord (id : DriverId) : Steady (driverHealthRecord id).run :=
  steady_ensureReady.andThen fun _ => steady_readHealth _

theorem steady_setAutoRecovery (id : DriverId) (auto : Bool) (threshold : Nat) :
    Steady (setAutoRecovery id auto threshold).run := by
  refine steady_ensureReady.andThen fun _ => .get_andThen fun s => ?_
  split
  · rename_i a t hok
    exact .single (.of_eq (.policySet (map_unit_ok hok)) rfl rfl)
  · exact .refl

theorem steady_setRestartHook (hook : HookRef) : Steady (setRestartHook hook) :=
  .change fun _ => .single (.of_eq (.hookInstalled hook) rfl rfl)

theorem steady_configure (config : Config) : Steady (configure config).run := by
  refine steady_ensureReady.andThen fun _ => ?_
  split
  · exact .throw _
  · rename_i hvalid
    exact fun s => .single (.of_eq (.configured hvalid) rfl rfl)

end Health

section Ticks

theorem steady_setAnalyticsHook (hook : AnalyticsHook) : Steady (setAnalyticsHook hook) :=
  .change fun _ => .single (.of_eq (.listening hook) rfl rfl)

theorem steady_sampleGauge (id : MetricId) (level : Int) :
    SteadyBut [id] (sampleGauge id level) := by
  refine (steady_updateGauge id level).bind fun outcome => ?_
  split
  · exact .pure _
  · exact .pure _
  · exact .pure _

theorem steady_rollRates : Steady rollRates := by
  refine Within.get.bind fun s => steady_readClock.bind fun now => ?_
  refine Within.bind (.change fun s => .single (.of_registry (.ratesRolled now) rfl rfl
    (Registry.keepsLevels_rollRates _ now))) fun _ => ?_
  refine .modify fun s => .single (.of_eq (.surroundings _ ?_ (.inl ?_)) rfl rfl)
  · exact congrArg _ (Environment.platform_tellTrends _ _ _)
  · exact Environment.fleet_tellTrends _ _ _

theorem steady_collectPerformanceSample (s : System) :
    s.SteadySteps s.core.predefined.sampled (s.call collectPerformanceSample).2 := by
  have hsample : ∀ {id : MetricId} (level : Int), id ∈ s.core.predefined.sampled →
      SteadyBut s.core.predefined.sampled (sampleGauge id level) :=
    fun level hid => (steady_sampleGauge _ level).mono (List.cons_subset.2 ⟨hid, List.nil_subset _⟩)
  cases hready : s.core.initialized with
  | false =>
    rw [show s.call collectPerformanceSample = s.call (ensureReady >>= _) from rfl,
      System.call_unready hready]
  | true =>
    rw [show s.call collectPerformanceSample = s.call (ensureReady >>= fun _ => _) from rfl,
      System.call_ready hready, System.call_get_andThen]
    refine Within.andThen (.lift (steady_readMemoryUsage.but _)) (fun memory => ?_) s
    refine .andThen (.lift .get) fun t => ?_
    refine .andThen (.lift (hsample _ (by simp [PredefinedMetrics.sampled]))) fun first => ?_
    refine .andThen (.lift (hsample _ (by simp [PredefinedMetrics.sampled]))) fun second => ?_
    refine .andThen (.lift (hsample _ (by simp [PredefinedMetrics.sampled]))) fun third => ?_
    refine .andThen (.lift (steady_rollRates.but _)) fun _ => ?_
    split
    · exact .throw _
    · exact .ok _

theorem steady_detectAnomalies : Steady detectAnomalies.run := by
  refine steady_ensureReady.andThen fun _ => .get_andThen fun s => ?_
  have htaken : System.Steadily [] System.Step s _ := .of_eq .verdictsTaken rfl rfl
  cases htake : s.core.registry.takePending with
  | mk verdicts registry =>
    rw [htake] at htaken
    refine Relation.ReflTransGen.head htaken ?_
    exact Within.andThen (.callForM (fun v => .lift (steady_reportAnomaly v)) _)
      (fun _ => .ok _) _

theorem steady_predict : Steady predict := by
  refine Within.bind (.modify fun s => .single (.of_eq (.surroundings _ ?_ (.inl ?_)) rfl rfl))
    fun _ => ?_
  · exact congrArg _ (Environment.platform_tellPredictions _ _ _)
  · exact Environment.fleet_tellPredictions _ _ _
  · exact .change fun _ => .single (.of_eq (.counted 0 1 0) rfl rfl)

end Ticks

section Reports

theorem steady_generateReport (limit : Nat) : Steady (generateReport limit).run := by
  refine steady_ensureReady.andThen fun _ => ?_
  have hrender : Steady (do
      let now ← readClock
      return Report.render (← get).core now limit : Call String).run :=
    .andThen (.lift steady_readClock) fun _ => .andThen (.lift .get) fun _ => .ok _
  dsimp only
  split
  · exact (Within.throw _).andThen fun _ => hrender
  · exact hrender

theorem steady_dashboard : Steady dashboard.run :=
  steady_ensureReady.andThen fun _ => .andThen (.lift .get) fun _ => .ok _

theorem steady_checkMemory : Steady checkMemory.run := by
  refine .andThen (.lift steady_readMemoryUsage) fun bytes => ?_
  split
  · exact (steady_log _ _ (by decide : Apart "High memory usage detected: ")
      Opens.refl.append.append).andThen fun _ => .ok _
  · exact .ok _

section Benchmark

variable {R : System → System → Prop} [IsPreorder System R]

theorem within_measureRuns (hsteady : ∀ {s t : System}, System.Steadily [] System.Step s t → R s t)
    {operation : Nat → Action Unit} (hop : ∀ i, Within R (operation i)) (left : Nat)
    (soFar : BenchmarkResult) : Within R (measureRuns operation left soFar) := by
  have hclock : Within R readClock := .of_chain hsteady steady_readClock
  induction left generalizing soFar with
  | zero => exact .pure _
  | succ left ih =>
    refine Within.bind ?_ fun _ => ih _
    exact hclock.bind fun _ => (hop _).bind fun _ => hclock.bind fun _ => .pure _

/-- A benchmark does what steady steps do and what the operation that it runs does. -/
theorem within_benchmark (hsteady : ∀ {s t : System}, System.Steadily [] System.Step s t → R s t)
    (name : String) (iterations : Nat) {operation : Nat → Action Unit}
    (hop : ∀ i, Within R (operation i)) :
    Within R (benchmark name iterations operation).run := by
  refine (Within.of_chain hsteady steady_ensureReady).andThen fun _ => ?_
  have hlog : ∀ b : BenchmarkResult, Within R (log .info .core
      s!"Benchmark '{name}': {iterations} iterations, avg={b.averageNs} ns, min={b.minNs} ns, max={b.maxNs} ns").run :=
    fun b => .of_chain hsteady (steady_log _ _ (by decide : Apart "Benchmark '")
      Opens.refl.append.append.append.append.append.append.append.append.append.append)
  have hmeasure : Within R (do
      let b ← measureRuns operation iterations { iterations := 0 }
      let _ ← log .info .core
        s!"Benchmark '{name}': {iterations} iterations, avg={b.averageNs} ns, min={b.minNs} ns, max={b.maxNs} ns"
      return b : Call BenchmarkResult).run :=
    .andThen (.lift (within_measureRuns hsteady hop _ _)) fun b => (hlog b).andThen fun _ => .ok _
  dsimp only
  split
  · exact (Within.throw _).andThen fun _ => hmeasure
  · exact hmeasure

end Benchmark

end Reports

section Background

theorem steady_putCollector (kind : CollectorKind) (next : Option Collector) :
    Steady (putCollector kind next) :=
  .change fun _ => .single (.of_eq (.collecting _) rfl rfl)

theorem steady_tick {collector : Collector} (h : collector.kind = .performance) (s : System) :
    s.SteadySteps s.core.predefined.sampled ((tick collector).run s).2 := by
  unfold tick
  split
  · rw [run_get_bind]
    have hpause : ∀ alive : Bool, SteadyBut s.core.predefined.sampled (do
        let stretch := Collector.nextStretch s.core.config
          (← get).core.counters.currentOverheadNs collector.stretch
        let pauseMs := s.core.config.collectionIntervalMs.toNat * stretch
        return if alive then some { collector with pauseMs, stretch } else none :
          Action (Option Collector)) :=
      fun alive => Within.get.bind fun _ => .pure _
    dsimp only
    split
    · exact (steady_collectPerformanceSample s).trans (hpause _ _)
    · exact hpause _ _
  · rename_i hkind
    exact absurd (hkind.symm.trans h) (by decide)
  · rename_i hkind
    exact absurd (hkind.symm.trans h) (by decide)

theorem steady_slice_performance (s : System) :
    s.SteadySteps s.core.predefined.sampled ((slice .performance).run s).2 := by
  unfold slice
  rw [run_get_bind]
  split
  · exact .refl
  · rename_i collector hfind
    have hkind : collector.kind = .performance := by simpa using List.find?_some hfind
    split
    · exact (steady_putCollector _ _).but _ s
    · exact (steady_tick hkind s).trans ((steady_putCollector _ _).but _ _)

theorem stepwise_slice_performance : Stepwise (slice .performance) :=
  fun s => (steady_slice_performance s).quiet

end Background

section Start

section Bootstrap

variable {R : System → System → Prop} [IsPreorder System R]

theorem within_registerPredefined
    (hregister : ∀ name description kind subsystem,
      Within R (registerMetric name description kind subsystem).run)
    (hstore : ∀ (s : System) (predefined : PredefinedMetrics),
      R s { s with core.predefined := predefined }) :
    Within R registerPredefined.run := by
  refine (hregister _ _ _ _).andThen fun _ => ?_
  refine (hregister _ _ _ _).andThen fun _ => ?_
  refine (hregister _ _ _ _).andThen fun _ => ?_
  refine (hregister _ _ _ _).andThen fun _ => ?_
  refine (hregister _ _ _ _).andThen fun _ => ?_
  refine (hregister _ _ _ _).andThen fun _ => ?_
  refine (hregister _ _ _ _).andThen fun _ => ?_
  refine (hregister _ _ _ _).andThen fun _ => ?_
  exact .lift (.change fun s => hstore s _)

/-- Completing a core does what registering metrics and starting collectors does. -/
theorem within_bootstrap
    (hregister : ∀ name description kind subsystem,
      Within R (registerMetric name description kind subsystem).run)
    (hstore : ∀ (s : System) (predefined : PredefinedMetrics),
      R s { s with core.predefined := predefined })
    (hstart : ∀ collector, Within R (startCollector collector).run) : Within R bootstrap.run := by
  refine (within_registerPredefined hregister hstore).andThen fun _ => ?_
  exact .andThen (.lift .get) fun s => .callForM hstart _

end Bootstrap

theorem steady_startCollector (collector : Collector) :
    Steady (startCollector collector).run := by
  refine .get_andThen fun s => ?_
  split
  · rename_i platform hspawn
    have henv : s.SteadySteps [] { s with env.platform := platform } :=
      .single (.of_eq (.surroundings _ (SimulatedPlatform.reserved_spawn hspawn) (.inl rfl)) rfl rfl)
    exact henv.tail (.of_eq (.collecting _) rfl rfl)
  · exact Within.andThen (.lift (steady_platformError _)) (fun _ => .throw _) s

theorem stepwise_bootstrap : Stepwise bootstrap.run :=
  within_bootstrap (fun _ _ _ _ => (steady_registerMetric _ _ _ _).stepwise)
    (fun _ ids => .single ⟨.predefinedStored ids, .of_eq rfl⟩)
    fun _ => (steady_startCollector _).stepwise

theorem steady_announce : Steady announce.run :=
  .andThen (.lift .get) fun _ =>
    (steady_log _ _ (by decide : Apart "Driver telemetry system initialized with ")
      Opens.refl.append.append.append.append).andThen fun _ => .ok _

/-- A core that is put on its tables has a valid configuration and tables made for it. -/
theorem prepare_ok {number : Nat} {config : Config} {env : Environment} {s : System}
    (h : prepare number config env = .ok s) :
    config.validate = .ok () ∧ ∃ (tables : Tables) (r : Reservation),
      (acquireTables config).run.run { env } = (.ok tables, r) ∧
      s = { env := r.env, core := ofTables number config tables r.bytes } := by
  unfold prepare at h
  split at h
  · cases h
  · rename_i hvalid
    split at h
    · cases h
    · rename_i tables r hacquired
      cases h
      exact ⟨hvalid, tables, r, hacquired, rfl⟩

theorem complete_quiet {s t : System} (h : complete s = (.ok (), t)) : s.QuietSteps t := by
  have hboot := stepwise_bootstrap s
  change s.QuietSteps (s.call bootstrap).2 at hboot
  unfold complete at h
  split at h
  · cases h
  · rename_i u hbootstrap
    rw [hbootstrap] at hboot
    have hannounce := steady_announce.stepwise u
    change u.QuietSteps (u.call announce).2 at hannounce
    rw [h] at hannounce
    exact hboot.trans hannounce

/-- A core that is completed comes to where it is by small steps. -/
theorem complete_ok {s t : System} (h : complete s = (.ok (), t)) : s.Steps t :=
  (complete_quiet h).steps

/-- A core that has started has been put on its tables and completed. -/
theorem start_ok {number : Nat} {config : Config} {env env' : Environment} {core : Core}
    (h : start number config env = (.ok core, env')) :
    ∃ s, prepare number config env = .ok s ∧ complete s = (.ok (), { env := env', core }) := by
  unfold start at h
  split at h
  · cases h
  · rename_i s hprepared
    split at h
    · cases h
    · rename_i t hcompleted
      cases h
      exact ⟨s, hprepared, hcompleted⟩

end Start

end Core

end DriverTelemetry
