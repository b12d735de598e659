import DriverTelemetry.Proofs.LifetimeAccounts
import DriverTelemetry.Proofs.TableGrowth

/-!
# A core after its shutdown

A core that accepts no calls refuses all of them before it looks at their arguments, reads the clock
or calls anyone back, and the few requests that cannot fail do nothing to it but keep a hook. So
whatever happens to it, its tables stay as empty as the shutdown has left them, and its counters
stand still. A restart hook that shuts the core down does so in the middle of an evaluation, which
goes on and may leave an event in the ring.
-/

namespace DriverTelemetry

namespace Core

/-- The calls that a core offers, whatever their arguments. The metrics of the driver subsystems are
not among them: they are recorded by other calls. -/
inductive Offered : (α : Type) → Call α → Prop
  | configure (config : Config) : Offered Unit (configure config)
  | registerMetric (name description : String) (kind : MetricKind) (subsystem : Subsystem) :
    Offered MetricId (registerMetric name description kind subsystem)
  | updateCounter (id : MetricId) (amount : Nat) : Offered Unit (updateCounter id amount)
  | updateGauge (id : MetricId) (level : Int) : Offered Unit (updateGauge id level)
  | adjustGauge (id : MetricId) (delta : Int) : Offered Unit (adjustGauge id delta)
  | recordHistogram (id : MetricId) (sample : Nat) : Offered Unit (recordHistogram id sample)
  | updateTimer (id : MetricId) (durationNs : Nat) : Offered Unit (updateTimer id durationNs)
  | setMetricEnabled (id : MetricId) (enabled : Bool) : Offered Unit (setMetricEnabled id enabled)
  | lookup (id : MetricId) : Offered Metric (lookup id)
  | ratePerSecond (id : MetricId) : Offered Nat (ratePerSecond id)
  | startTimer (operation : String) : Offered TimerToken (startTimer operation)
  | startTimerFor (operation : String) (id : MetricId) :
    Offered TimerToken (startTimerFor operation id)
  | stopTimer (token : TimerToken) : Offered Nat (stopTimer token)
  | log (severity : Severity) (subsystem : Subsystem) (message : String) :
    Offered EventId (log severity subsystem message)
  | logPieces (severity : Severity) (subsystem : Subsystem) (pieces : List String) :
    Offered EventId (logPieces severity subsystem pieces)
  | logEvent (record : EventRecord) : Offered EventId (logEvent record)
  | logError (subsystem : Subsystem) (code : Nat) (message : String) :
    Offered EventId (logError subsystem code message)
  | drainEvents : Offered (List Event) drainEvents
  | recentEvents (count : Nat) : Offered (List Event) (recentEvents count)
  | trackAlloc (address size : Nat) (file : String) (line : Nat) (owner : Option DriverId) :
    Offered Unit (trackAlloc address size file line owner)
  | trackFree (address : Nat) : Offered Unit (trackFree address)
  | scanLeaks (thresholdMs : Nat) : Offered LeakSummary (scanLeaks thresholdMs)
  | registerDriver (handle : HandleRef) : Offered DriverId (registerDriver handle)
  | updateDriverHealth (id : DriverId) : Offered HealthStatus (updateDriverHealth id)
  | checkAllDriverHealth : Offered Nat checkAllDriverHealth
  | driverHealth (id : DriverId) : Offered HealthStatus (driverHealth id)
  | driverHealthRecord (id : DriverId) : Offered DriverHealth (driverHealthRecord id)
  | setAutoRecovery (id : DriverId) (auto : Bool) (threshold : Nat) :
    Offered Unit (setAutoRecovery id auto threshold)
  | collectPerformanceSample : Offered Unit collectPerformanceSample
  | detectAnomalies : Offered Nat detectAnomalies
  | runAnalyticsCycle : Offered AnalyticsCycle runAnalyticsCycle
  | generateReport (limit : Nat) : Offered String (generateReport limit)
  | benchmark (name : String) (iterations : Nat) (operation : Nat → Action Unit) :
    Offered BenchmarkResult (benchmark name iterations operation)
  | dashboard : Offered Dashboard dashboard
  | systemHealthCheck : Offered Nat systemHealthCheck

end Core

namespace System

variable {α : Type} {s t : System}

/-- A core that accepts no calls refuses each of them, and nothing else happens. -/
theorem call_offered (h : s.core.initialized = false) {c : Call α} (hc : Core.Offered α c) :
    s.call c = (.error .notInitialized, s) := by
  cases hc with
  | updateCounter id amount => exact call_andThen_error (call_applyUpdate_unready h)
  | updateGauge id level => exact call_andThen_error (call_applyUpdate_unready h)
  | adjustGauge id delta => exact call_andThen_error (call_applyUpdate_unready h)
  | recordHistogram id sample => exact call_andThen_error (call_applyUpdate_unready h)
  | updateTimer id durationNs => exact call_andThen_error (call_applyUpdate_unready h)
  | startTimerFor operation id => exact call_andThen_error (call_unready h _)
  | systemHealthCheck => exact call_andThen_error (call_unready h _)
  | _ => exact call_unready h _

/-- A system that another one leads to, and that is that very one if it accepts no calls. -/
def Idle (s t : System) : Prop := s.core.initialized = false → t = s

instance : IsPreorder System Idle where
  refl _ _ := rfl
  trans s t u h₁ h₂ hs := by
    obtain rfl := h₁ hs
    exact h₂ hs

theorem idle_offered {c : Call α} (hc : Core.Offered α c) : Core.Within Idle c.run :=
  fun _ h => congrArg Prod.snd (call_offered h hc)

theorem idle_registerStandardMetrics : Core.Within Idle Core.registerStandardMetrics.run := by
  refine .andThen (.callMapM (fun spec => ?_) _) fun ids => ?_
  · exact (idle_offered (.registerMetric _ _ _ _)).andThen fun _ => .ok _
  · exact (idle_offered (.log _ _ _)).andThen fun _ => .andThen (.lift .get) fun _ => .ok _

theorem idle_recordBandwidth (b : MetricBundle) (subsystem : Subsystem) (bytes durationNs : Nat) :
    Core.Within Idle (Core.recordBandwidth b subsystem bytes durationNs).run := by
  unfold Core.recordBandwidth
  refine .optional (.throw _) ?_
  split
  · exact idle_offered (.updateGauge _ _)
  · exact .andThen (.lift .get) fun _ => idle_offered (.updateCounter _ _)

theorem idle_recordError (b : MetricBundle) (subsystem : Subsystem) :
    Core.Within Idle (Core.recordError b subsystem).run := by
  refine .andThen (.lift .get) fun s => .andThen (idle_offered (.updateCounter _ _)) fun _ => ?_
  have hlog : Core.Within Idle (do
      let _ ← Core.log .error subsystem s!"Error recorded in subsystem {subsystem.name}" :
        Call Unit).run :=
    (idle_offered (.log _ _ _)).andThen fun _ => .ok _
  dsimp only
  split
  · exact (idle_offered (.updateCounter _ _)).andThen fun _ => hlog
  · exact hlog

/-- What is left of a happening once a core accepts no calls and has no collectors: what others do
to the surroundings, and the hooks that are kept. -/
inductive Aftermath (s : System) : Happening → System → Prop
  | nothing (x : Happening) : Aftermath s x s
  | surroundings (change : Environment → Environment) :
    Aftermath s (.surroundings change) { s with env := change s.env }
  | restartHook (hook : HookRef) :
    Aftermath s (.setRestartHook hook) { s with core.restartHook := some hook }
  | analyticsHook (hook : AnalyticsHook) :
    Aftermath s (.setAnalyticsHook hook) { s with core.analyticsHook := some hook }

theorem Aftermath.of_idle (h : s.core.initialized = false) {x : Happening} {c : Call α}
    (hc : Core.Within Idle c.run) (hx : x.act = Core.attempt c) : Aftermath s x (s.perform x) := by
  have hsame : s.perform x = s := by
    rw [perform, hx]
    exact hc s h
  rw [hsame]
  exact .nothing x

theorem Aftermath.of_offered (h : s.core.initialized = false) {x : Happening} {c : Call α}
    (hc : Core.Offered α c) (hx : x.act = Core.attempt c) : Aftermath s x (s.perform x) :=
  .of_idle h (idle_offered hc) hx

theorem run_slice_of_none (h : s.core.collectors = []) (kind : CollectorKind) :
    (Core.slice kind).run s = ((), s) := by
  unfold Core.slice
  rw [Core.run_get_bind]
  simp only [h, List.find?_nil]
  rfl

theorem run_backgroundSlice_of_none (h : s.core.collectors = []) :
    Core.backgroundSlice.run s = ((), s) := by
  unfold Core.backgroundSlice
  rw [StateT.run_bind, run_slice_of_none h]
  change ((Core.slice .health) >>= fun _ => Core.slice .analytics).run s = _
  rw [StateT.run_bind, run_slice_of_none h]
  exact run_slice_of_none h .analytics

theorem run_check_unready (h : s.core.initialized = false) (holds : Bool)
    (condition file : String) (line : Nat) (subsystem : Subsystem) :
    (Core.check holds condition file line subsystem).run s = ((), s) := by
  unfold Core.check
  rw [Core.run_get_bind, if_neg (by simp [h])]
  rfl

theorem retire_of_unready (h : s.core.initialized = false) : s.retire = s := by
  rw [retire, if_neg (by simp [h])]

theorem aftermath_perform (h : s.core.initialized = false) (hcollectors : s.core.collectors = [])
    (x : Happening) : Aftermath s x (s.perform x) := by
  cases x with
  | surroundings change => exact .surroundings change
  | setRestartHook hook => exact .restartHook hook
  | setAnalyticsHook hook => exact .analyticsHook hook
  | check holds condition file line subsystem =>
    rw [perform, Happening.act, run_check_unready h]
    exact .nothing _
  | backgroundSlice =>
    rw [perform, Happening.act, run_backgroundSlice_of_none hcollectors]
    exact .nothing _
  | shutdown =>
    have hsame : s.perform .shutdown = s := retire_of_unready h
    rw [hsame]
    exact .nothing _
  | registerStandardMetrics => exact .of_idle h idle_registerStandardMetrics rfl
  | recordBandwidth b subsystem bytes durationNs =>
    exact .of_idle h (idle_recordBandwidth b subsystem bytes durationNs) rfl
  | recordError b subsystem => exact .of_idle h (idle_recordError b subsystem) rfl
  | log severity subsystem message => exact .of_offered h (.log severity subsystem message) rfl
  | logPieces severity subsystem pieces =>
    exact .of_offered h (.logPieces severity subsystem pieces) rfl
  | logEvent record => exact .of_offered h (.logEvent record) rfl
  | drainEvents => exact .of_offered h .drainEvents rfl
  | recentEvents count => exact .of_offered h (.recentEvents count) rfl
  | registerMetric name description kind subsystem =>
    exact .of_offered h (.registerMetric name description kind subsystem) rfl
  | updateCounter id amount => exact .of_offered h (.updateCounter id amount) rfl
  | updateGauge id level => exact .of_offered h (.updateGauge id level) rfl
  | adjustGauge id delta => exact .of_offered h (.adjustGauge id delta) rfl
  | recordHistogram id sample => exact .of_offered h (.recordHistogram id sample) rfl
  | updateTimer id durationNs => exact .of_offered h (.updateTimer id durationNs) rfl
  | setMetricEnabled id enabled => exact .of_offered h (.setMetricEnabled id enabled) rfl
  | lookup id => exact .of_offered h (.lookup id) rfl
  | ratePerSecond id => exact .of_offered h (.ratePerSecond id) rfl
  | startTimer operation => exact .of_offered h (.startTimer operation) rfl
  | startTimerFor operation id => exact .of_offered h (.startTimerFor operation id) rfl
  | stopTimer token => exact .of_offered h (.stopTimer token) rfl
  | trackAlloc address size file line owner =>
    exact .of_offered h (.trackAlloc address size file line owner) rfl
  | trackFree address => exact .of_offered h (.trackFree address) rfl
  | scanLeaks thresholdMs => exact .of_offered h (.scanLeaks thresholdMs) rfl
  | registerDriver handle => exact .of_offered h (.registerDriver handle) rfl
  | updateDriverHealth id => exact .of_offered h (.updateDriverHealth id) rfl
  | checkAllDriverHealth => exact .of_offered h .checkAllDriverHealth rfl
  | driverHealth id => exact .of_offered h (.driverHealth id) rfl
  | driverHealthRecord id => exact .of_offered h (.driverHealthRecord id) rfl
  | setAutoRecovery id auto threshold =>
    exact .of_offered h (.setAutoRecovery id auto threshold) rfl
  | collectPerformanceSample => exact .of_offered h .collectPerformanceSample rfl
  | detectAnomalies => exact .of_offered h .detectAnomalies rfl
  | runAnalyticsCycle => exact .of_offered h .runAnalyticsCycle rfl
  | configure config => exact .of_offered h (.configure config) rfl
  | generateReport limit => exact .of_offered h (.generateReport limit) rfl
  | dashboard => exact .of_offered h .dashboard rfl
  | systemHealthCheck => exact .of_offered h .systemHealthCheck rfl
  | benchmark name iterations operation => exact .of_offered h (.benchmark name iterations _) rfl

/-- What happens to a core that accepts no calls, one thing after the other, changes its hooks at
most; and the memory that is reserved changes only by what others do. -/
theorem after_unready (h : s.core.initialized = false) (hcollectors : s.core.collectors = [])
    (xs : List Happening) :
    (∃ restartHook analyticsHook, (s.after xs).core = { s.core with restartHook, analyticsHook }) ∧
    ((∀ change, .surroundings change ∈ xs →
        ∀ env, (change env).platform.reserved = env.platform.reserved) →
      (s.after xs).env.platform.reserved = s.env.platform.reserved) := by
  induction xs generalizing s with
  | nil => exact ⟨⟨s.core.restartHook, s.core.analyticsHook, rfl⟩, fun _ => rfl⟩
  | cons x rest ih =>
    have hstep := aftermath_perform h hcollectors x
    change (∃ restartHook analyticsHook, ((s.perform x).after rest).core = _) ∧
      (_ → ((s.perform x).after rest).env.platform.reserved = _)
    generalize s.perform x = t at hstep
    have hrest := ih (s := t) (by cases hstep <;> exact h) (by cases hstep <;> exact hcollectors)
    obtain ⟨⟨restartHook, analyticsHook, hcore⟩, hmemory⟩ := hrest
    refine ⟨⟨restartHook, analyticsHook, ?_⟩, ?_⟩
    · rw [hcore]
      cases hstep <;> rfl
    · intro hspares
      rw [hmemory fun change hchange => hspares change (List.mem_cons_of_mem x hchange)]
      cases hstep with
      | surroundings change => exact hspares change (by simp) s.env
      | _ => rfl

end System

/-- A core with nothing in its tables, no metrics of its own and no collectors. -/
structure Core.Emptied (c : Core) : Prop where
  metrics_eq : c.registry.metrics = []
  pending_eq : c.registry.pending = []
  slots_eq : c.events.slots = #[]
  records_eq : c.tracker.records = []
  liveCount_eq : c.tracker.liveCount = 0
  liveBytes_eq : c.tracker.liveBytes = 0
  drivers_eq : c.health.drivers = []
  predefined_eq : c.predefined = {}
  collectors_eq : c.collectors = []

namespace System

variable {s : System}

theorem retire_of_ready (h : s.core.initialized = true) :
    s.retire = releaseSteps.foldl (fun s step => step s) { s with core.initialized := false } := by
  rw [retire, if_pos h]

theorem emptied_retire (h : s.core.initialized = true) : s.retire.core.Emptied := by
  rw [retire_of_ready h]
  exact ⟨rfl, rfl, rfl, rfl, rfl, rfl, rfl, rfl, rfl⟩

/-- **A shutdown is final.** After a shutdown, whatever is asked of the core and whatever happens
around it, the core refuses every call, whatever its arguments, without anything else happening, and
finds no metric of any name. If the core accepted calls until then, its predefined metrics are zero
and its tables and collectors stay empty; its lifetime counters stay what they were before the
shutdown, and all its statistics what they are right after it; and the memory that is reserved
changes only if others reserve or release some. The shutdown is a request of its own here; when a
restart hook shuts the core down, the evaluation that has called the hook still has to come to its
end. -/
theorem shutdown_is_final (s : System) (xs : List Happening) :
    let ended := s.perform .shutdown
    let t := ended.after xs
    (t.core.initialized = false ∧
      (∀ (α : Type) (c : Call α), Core.Offered α c → t.call c = (.error .notInitialized, t)) ∧
      ∀ name, t.core.findMetric? name = none) ∧
    (s.core.initialized = true →
      t.core.Emptied ∧ t.core.counters = s.core.counters ∧
      t.core.snapshot = ended.core.snapshot ∧
      ((∀ change, .surroundings change ∈ xs →
          ∀ env, (change env).platform.reserved = env.platform.reserved) →
        t.env.platform.reserved = ended.env.platform.reserved)) := by
  intro ended t
  have hended : ended = s.retire := rfl
  have hunready : ended.core.initialized = false := s.initialized_retire
  have ht : t.core.initialized = false := stable_closed.after hunready xs
  refine ⟨⟨ht, fun α c hc => call_offered ht hc, fun name => ?_⟩, fun hready => ?_⟩
  · rw [Core.findMetric?, if_neg (by simp [ht])]
  have hempty : ended.core.Emptied := emptied_retire hready
  have hcounters : ended.core.counters = s.core.counters := by
    rw [hended, retire_of_ready hready]
    rfl
  obtain ⟨⟨restartHook, analyticsHook, hcore⟩, hmemory⟩ :=
    after_unready hunready hempty.collectors_eq xs
  refine ⟨?_, ?_, ?_, hmemory⟩
  · rw [hcore]
    exact ⟨hempty.metrics_eq, hempty.pending_eq, hempty.slots_eq, hempty.records_eq,
      hempty.liveCount_eq, hempty.liveBytes_eq, hempty.drivers_eq, hempty.predefined_eq,
      hempty.collectors_eq⟩
  · rw [hcore]
    exact hcounters
  · rw [hcore]
    rfl

/-- After its shutdown a core is asked to log, to register a driver and to run its collectors. -/
theorem shutdown_is_final_for_impatient :
    ∃ s : System, s.Reachable ∧ s.core.initialized = true ∧
      let t := (s.perform .shutdown).after
        [.log .info .core "late", .registerDriver ⟨0⟩, .backgroundSlice]
      t.core.Emptied ∧ t.call (Core.registerDriver ⟨0⟩) = (.error .notInitialized, t) := by
  obtain ⟨core, hreachable, hready, -⟩ := exists_impatient
  obtain ⟨⟨-, hrefused, -⟩, hrest⟩ := shutdown_is_final { env := overheated, core }
    [.log .info .core "late", .registerDriver ⟨0⟩, .backgroundSlice]
  exact ⟨_, hreachable, hready, (hrest hready).1, hrefused _ _ (.registerDriver ⟨0⟩)⟩

section EndedByHook

theorem capacity_emitText (s : System) (severity : Severity) (subsystem : Subsystem)
    (message : String) :
    ((Core.emitText severity subsystem message).run s).2.core.events.capacity =
      s.core.events.capacity :=
  congrArg Settings.eventSlots (settings_emit s severity subsystem (·.setMessage message))

/-- A restart hook that shuts the core down in the middle of a recovery, and answers that the
restart has worked, leaves an event in the ring: the record of the driver is gone, and that is
logged. -/
theorem recover_ended_by_hook {eval : Evaluation} (hook : HookRef)
    (hready : s.core.initialized = true)
    (hhook : s.core.restartHook.filter (fun _ => eval.autoRecovery) = some hook)
    (hshuts : (s.hookOutcome hook).shutsDown = true)
    (hworks : (s.hookOutcome hook).failure = none) (hroom : 0 < s.core.events.capacity) :
    (s.call (Core.recover eval)).2.core.initialized = false ∧
      (s.call (Core.recover eval)).2.core.events.size = 1 := by
  obtain ⟨t, -, hsame, hhooks, ⟨counters, -, ht⟩, hcall⟩ := Core.call_recover_some hhook
  obtain ⟨env, -, -, -, -, hrun⟩ := Core.run_callHook t hook eval.handle
  have houtcome : t.hookOutcome hook = s.hookOutcome hook := by
    unfold hookOutcome
    rw [hhooks]
  have hready' : t.core.initialized = true := hsame.initialized_eq.trans hready
  let released : EventRing := t.core.events.release
  have hroom' : released.size < released.capacity := by
    have hcapacity : t.core.events.capacity = s.core.events.capacity := by
      rw [ht, capacity_emitText]
    exact hroom.trans_eq hcapacity.symm
  let ended : System := System.retire { t with env }
  have hdead : ended.Dead := dead_retire _ (.inr hready')
  have hreleased : ended.core.events = released := by
    change (System.retire { t with env }).core.events = released
    rw [retire_of_ready (s := { t with env }) hready']
    rfl
  rw [hcall, hrun, houtcome, hshuts, hworks, if_pos rfl]
  change (ended.call (Core.noteRestart eval)).2.core.initialized = false ∧
    (ended.call (Core.noteRestart eval)).2.core.events.size = 1
  rw [Core.call_noteRestart_dead hdead]
  refine ⟨hdead.1, ?_⟩
  obtain ⟨severity, subsystem, origin, fill, hpushed⟩ : ∃ severity subsystem origin fill,
      ((Core.internalError "health record lost during recovery").run ended).2.core.events =
        (ended.core.events.push severity subsystem origin fill).2 := ⟨_, _, _, _, rfl⟩
  rw [hpushed, hreleased, EventRing.size_push_of_lt hroom']
  rfl

/-- An impatient core enrols an overheated driver as due for recovery at once. -/
theorem enrol_overheated (core : Core) (hready : core.initialized = true)
    (hconfig : core.config = impatient) (hhealth : core.health = { alerts := impatient.alerts })
    (hooks : List RestartHook) :
    ∃ eval t, System.call { env := { overheated with hooks }, core } (Core.enrol ⟨0⟩) =
        (.ok eval, t) ∧
      eval.recoveryDue = true ∧ eval.autoRecovery = true ∧ t.core.initialized = true ∧
      t.core.restartHook = core.restartHook ∧ t.env.hooks = hooks ∧
      t.core.events.capacity = core.events.capacity := by
  obtain ⟨number, config, initialized, enabled, registry, events, health, tracker, counters,
    predefined, collectors, hook⟩ := core
  dsimp only at hready hconfig hhealth
  subst hready hconfig hhealth
  exact ⟨_, _, rfl, rfl, rfl, rfl, rfl, rfl, capacity_emitText _ _ _ _⟩

/-- A restart hook shuts the core down while a driver is being registered; the shutdown after that
finds the core shut down, and the event that the registration has left stays in the ring. -/
theorem shutdown_after_hook_releases_nothing :
    ¬∀ (s : System) (xs : List Happening), s.Reachable →
      ((s.perform .shutdown).after xs).core.Emptied := by
  intro hclaim
  obtain ⟨core, hreachable, hready, hconfig, hhealth, -⟩ := exists_impatient
  let hooks : List RestartHook := [{ outcomes := [{ shutsDown := true }] }]
  let env : Environment := { overheated with hooks }
  let s : System := { env, core := { core with restartHook := some ⟨0⟩ } }
  have hinstalled : s.Reachable :=
    .next (.next hreachable (.surroundings fun _ => env)) (.setRestartHook ⟨0⟩)
  obtain ⟨eval, t, henrol, hdue, hauto, hready', hhook, hhooks, hcapacity⟩ :=
    enrol_overheated s.core hready hconfig hhealth hooks
  have hrun : s.perform (.registerDriver ⟨0⟩) = (t.call (Core.recover eval)).2 := by
    change (s.call (Core.registerDriver ⟨0⟩)).2 = _
    rw [Core.call_registerDriver_enrol, call_andThen_ok henrol, call_andThen_pure, Core.actOn,
      if_pos hdue]
  have houtcome : t.hookOutcome ⟨0⟩ = { shutsDown := true } := by
    unfold hookOutcome
    rw [hhooks]
    rfl
  have hfilter : t.core.restartHook.filter (fun _ => eval.autoRecovery) = some ⟨0⟩ := by
    rw [hhook, hauto]
    rfl
  obtain ⟨hended, hsize⟩ := recover_ended_by_hook ⟨0⟩ hready' hfilter (by rw [houtcome])
    (by rw [houtcome]) (hinstalled.eventSlots_pos.trans_eq hcapacity.symm)
  have hempty := hclaim (s.perform (.registerDriver ⟨0⟩)) [] (.next hinstalled _)
  rw [hrun] at hempty
  have hidle : (t.call (Core.recover eval)).2.perform .shutdown = (t.call (Core.recover eval)).2 :=
    retire_of_unready hended
  have hnone : ((t.call (Core.recover eval)).2.perform .shutdown).core.events.size = 0 :=
    congrArg Array.size hempty.slots_eq
  rw [hidle, hsize] at hnone
  cases hnone

end EndedByHook

end System

end DriverTelemetry
