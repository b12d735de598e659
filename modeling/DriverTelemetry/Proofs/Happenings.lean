import DriverTelemetry.Proofs.AccountEntries
import DriverTelemetry.Proofs.Evaluation

/-!
# What can happen to a core

A `Happening` is a request to a core or a change in its surroundings, and `System.Reachable` holds
of every system that a started core can come to. The evaluations of drivers that a happening brings
about are its `Visit`s. Between and around them a core takes `System.Turn`s only, which
`System.Course` says: so what a turn and a visit preserve holds along every run. What producers say
in their own words is known of a course, as far as its messages go.
-/

namespace DriverTelemetry

/-- A request to a core, or a change in its surroundings. A benchmark of an operation that makes
requests itself is the run of those requests and of what a benchmark of nothing does. -/
inductive Happening where
  | surroundings (change : Environment → Environment)
  | log (severity : Severity) (subsystem : Subsystem) (message : String)
  | logPieces (severity : Severity) (subsystem : Subsystem) (pieces : List String)
  | logEvent (record : EventRecord)
  | check (holds : Bool) (condition file : String) (line : Nat) (subsystem : Subsystem)
  | drainEvents
  | recentEvents (count : Nat)
  | registerMetric (name description : String) (kind : MetricKind) (subsystem : Subsystem)
  | registerStandardMetrics
  | updateCounter (id : MetricId) (amount : Nat)
  | updateGauge (id : MetricId) (level : Int)
  | adjustGauge (id : MetricId) (delta : Int)
  | recordHistogram (id : MetricId) (sample : Nat)
  | updateTimer (id : MetricId) (durationNs : Nat)
  | setMetricEnabled (id : MetricId) (enabled : Bool)
  | lookup (id : MetricId)
  | ratePerSecond (id : MetricId)
  | recordBandwidth (b : MetricBundle) (subsystem : Subsystem) (bytes durationNs : Nat)
  | recordError (b : MetricBundle) (subsystem : Subsystem)
  | startTimer (operation : String)
  | startTimerFor (operation : String) (id : MetricId)
  | stopTimer (token : TimerToken)
  | trackAlloc (address size : Nat) (file : String) (line : Nat) (owner : Option DriverId)
  | trackFree (address : Nat)
  | scanLeaks (thresholdMs : Nat)
  | registerDriver (handle : HandleRef)
  | updateDriverHealth (id : DriverId)
  | checkAllDriverHealth
  | driverHealth (id : DriverId)
  | driverHealthRecord (id : DriverId)
  | setAutoRecovery (id : DriverId) (auto : Bool) (threshold : Nat)
  | setRestartHook (hook : HookRef)
  | setAnalyticsHook (hook : AnalyticsHook)
  | collectPerformanceSample
  | detectAnomalies
  | runAnalyticsCycle
  | backgroundSlice
  | configure (config : Config)
  | generateReport (limit : Nat)
  | dashboard
  | systemHealthCheck
  | benchmark (name : String) (iterations : Nat) (operation : Nat → Environment → Environment)
  | shutdown

/-- A message that a producer gives in a happening. -/
def Happening.Says : Happening → Message → Prop
  | log _ _ message, m => m = (Payload.blank.setMessage message).message
  | logPieces _ _ pieces, m => m = (Payload.blank.writeMessage pieces).message
  | logEvent record, m => m = (record.fill .blank).message
  | _, _ => False

/-- A request whose answer is not looked at. -/
def Core.attempt {α : Type} (c : Call α) : Action Unit := do
  let _ ← c.run

theorem Core.Within.attempt {R : System → System → Prop} [IsPreorder System R] {α : Type}
    {c : Call α} (hc : Within R c.run) : Within R (attempt c) :=
  hc.bind fun _ => .pure _

def Happening.act : Happening → Action Unit
  | surroundings change => modify fun s => { s with env := change s.env }
  | log severity subsystem message => Core.attempt (Core.log severity subsystem message)
  | logPieces severity subsystem pieces => Core.attempt (Core.logPieces severity subsystem pieces)
  | logEvent record => Core.attempt (Core.logEvent record)
  | check holds condition file line subsystem => Core.check holds condition file line subsystem
  | drainEvents => Core.attempt Core.drainEvents
  | recentEvents count => Core.attempt (Core.recentEvents count)
  | registerMetric name description kind subsystem =>
    Core.attempt (Core.registerMetric name description kind subsystem)
  | registerStandardMetrics => Core.attempt Core.registerStandardMetrics
  | updateCounter id amount => Core.attempt (Core.updateCounter id amount)
  | updateGauge id level => Core.attempt (Core.updateGauge id level)
  | adjustGauge id delta => Core.attempt (Core.adjustGauge id delta)
  | recordHistogram id sample => Core.attempt (Core.recordHistogram id sample)
  | updateTimer id durationNs => Core.attempt (Core.updateTimer id durationNs)
  | setMetricEnabled id enabled => Core.attempt (Core.setMetricEnabled id enabled)
  | lookup id => Core.attempt (Core.lookup id)
  | ratePerSecond id => Core.attempt (Core.ratePerSecond id)
  | recordBandwidth b subsystem bytes durationNs =>
    Core.attempt (Core.recordBandwidth b subsystem bytes durationNs)
  | recordError b subsystem => Core.attempt (Core.recordError b subsystem)
  | startTimer operation => Core.attempt (Core.startTimer operation)
  | startTimerFor operation id => Core.attempt (Core.startTimerFor operation id)
  | stopTimer token => Core.attempt (Core.stopTimer token)
  | trackAlloc address size file line owner =>
    Core.attempt (Core.trackAlloc address size file line owner)
  | trackFree address => Core.attempt (Core.trackFree address)
  | scanLeaks thresholdMs => Core.attempt (Core.scanLeaks thresholdMs)
  | registerDriver handle => Core.attempt (Core.registerDriver handle)
  | updateDriverHealth id => Core.attempt (Core.updateDriverHealth id)
  | checkAllDriverHealth => Core.attempt Core.checkAllDriverHealth
  | driverHealth id => Core.attempt (Core.driverHealth id)
  | driverHealthRecord id => Core.attempt (Core.driverHealthRecord id)
  | setAutoRecovery id auto threshold => Core.attempt (Core.setAutoRecovery id auto threshold)
  | setRestartHook hook => Core.setRestartHook hook
  | setAnalyticsHook hook => Core.setAnalyticsHook hook
  | collectPerformanceSample => Core.attempt Core.collectPerformanceSample
  | detectAnomalies => Core.attempt Core.detectAnomalies
  | runAnalyticsCycle => Core.attempt Core.runAnalyticsCycle
  | backgroundSlice => Core.backgroundSlice
  | configure config => Core.attempt (Core.configure config)
  | generateReport limit => Core.attempt (Core.generateReport limit)
  | dashboard => Core.attempt Core.dashboard
  | systemHealthCheck => Core.attempt Core.systemHealthCheck
  | benchmark name iterations operation =>
    Core.attempt
      (Core.benchmark name iterations fun i => modify fun s => { s with env := operation i s.env })
  | shutdown => Core.shutdown

namespace System

def perform (s : System) (x : Happening) : System := (x.act.run s).2

def after (s : System) (xs : List Happening) : System := xs.foldl perform s

/-- A system that a started core can come to. -/
inductive Reachable : System → Prop
  | started {number : Nat} {config : Config} {env env' : Environment} {core : Core}
      (h : Core.start number config env = (.ok core, env')) : Reachable { env := env', core }
  | next {s : System} (h : Reachable s) (x : Happening) : Reachable (s.perform x)

end System

/-- An evaluation of a driver: what its handle has reported, and the system before and after. -/
structure Visit where
  id : DriverId
  readings : DriverReadings
  before : System
  after : System

namespace Visit

/-- What the readings call for by themselves, by the thresholds in force. -/
def observation (v : Visit) : HealthStatus :=
  .observe v.readings.cpuPercent v.readings.crashes v.before.core.health.alerts

def recordBefore? (v : Visit) : Option DriverHealth := v.before.core.health.find? v.id

def status? (v : Visit) : Option HealthStatus := (v.after.core.health.find? v.id).map (·.status)

end Visit

namespace System

/-- The evaluation of a driver by what its handle reports. -/
def visit (s : System) (id : DriverId) (handle : HandleRef) : Visit :=
  let readings := s.env.readHandle handle
  { id, readings, before := s, after := (s.call (Core.evaluateDriver id readings)).2 }

/-- The evaluations of drivers one after the other, up to the first that fails; a driver that is not
registered any more is not evaluated. -/
def tour : System → List (DriverId × HandleRef) → List Visit
  | _, [] => []
  | s, (id, handle) :: rest =>
    match s.core.health.find? id with
    | none => []
    | some _ =>
      s.visit id handle ::
        match s.call (Core.evaluateDriver id (s.env.readHandle handle)) with
        | (.ok _, t) => t.tour rest
        | (.error _, _) => []

/-- The evaluations of all drivers of a core that accepts calls. -/
def fullTour (s : System) : List Visit :=
  if s.core.initialized then s.tour s.core.health.handles else []

/-- The evaluation of one driver of a core that accepts calls. -/
def soleVisit (s : System) (id : DriverId) : List Visit :=
  match s.core.health.find? id with
  | some d => if s.core.initialized then [s.visit id d.handle] else []
  | none => []

/-- The evaluations in a slice of time of the health collector. -/
def collectorTour (s : System) : List Visit :=
  match s.core.collectors.find? (·.kind = .health) with
  | some collector => if 0 < collector.pauseMs then [] else s.fullTour
  | none => []

/-- The evaluations that a happening brings about, in order. -/
def visitsOf (s : System) : Happening → List Visit
  | .updateDriverHealth id => s.soleVisit id
  | .checkAllDriverHealth => s.fullTour
  | .backgroundSlice => collectorTour ((Core.slice .performance).run s).2
  | _ => []

/-- The evaluations that happenings bring about, in order. -/
def visits : System → List Happening → List Visit
  | _, [] => []
  | s, x :: rest => s.visitsOf x ++ (s.perform x).visits rest

/-- What can happen to a core without a visit: a small step, an event in a producer's own words, the
registration of a driver, or anything that others do to the surroundings. -/
inductive Turn (Said : Message → Prop) (s : System) : System → Prop
  | step {t : System} (h : s.Step t) : Turn Said s t
  | said (severity : Severity) (subsystem : Subsystem) {fill : Payload → Payload}
      (h : Said (fill .blank).message) : Turn Said s ((Core.emit severity subsystem fill).run s).2
  | registered (handle : HandleRef) : Turn Said s (s.call (Core.registerDriver handle)).2
  | outside (env : Environment) : Turn Said s { s with env }

abbrev Turns (Said : Message → Prop) : System → System → Prop := Relation.ReflTransGen (Turn Said)

/-- A system that leads to another by turns and the visits listed. -/
inductive Course (Said : Message → Prop) : System → List Visit → System → Prop
  | nil (s : System) : Course Said s [] s
  | turn {s t u : System} {vs : List Visit} (h : Turn Said s t) (rest : Course Said t vs u) :
      Course Said s vs u
  | visit {s u : System} {vs : List Visit} {id : DriverId} {d : DriverHealth}
      (hd : s.core.health.find? id = some d) (handle : HandleRef)
      (rest : Course Said (s.visit id handle).after vs u) :
      Course Said s (s.visit id handle :: vs) u

variable {Said : Message → Prop}

namespace Course

variable {s t u : System} {vs ws : List Visit}

theorem of_turns (h : Turns Said s t) (rest : Course Said t vs u) : Course Said s vs u := by
  induction h using Relation.ReflTransGen.head_induction_on with
  | refl => exact rest
  | head hturn _ ih => exact .turn hturn ih

theorem of_steps (h : s.Steps t) (rest : Course Said t vs u) : Course Said s vs u :=
  .of_turns (Relation.ReflTransGen.mono (fun _ _ hstep => .step hstep) _ _ h) rest

theorem append (h : Course Said s vs t) (rest : Course Said t ws u) :
    Course Said s (vs ++ ws) u := by
  induction h with
  | nil => exact rest
  | turn hturn _ ih => exact .turn hturn (ih rest)
  | visit hd handle _ ih => exact .visit hd handle (ih rest)

theorem of_visit {id : DriverId} {d : DriverHealth} (hd : s.core.health.find? id = some d)
    (handle : HandleRef) : Course Said s [s.visit id handle] (s.visit id handle).after :=
  .visit hd handle (.nil _)

/-- What is known of the messages in a course can be said in a weaker way. -/
theorem mono {Said' : Message → Prop} (hsaid : ∀ m, Said m → Said' m) (h : Course Said s vs t) :
    Course Said' s vs t := by
  induction h with
  | nil => exact .nil _
  | turn hturn _ ih =>
    refine .turn ?_ ih
    cases hturn with
    | step hstep => exact .step hstep
    | said severity subsystem h => exact .said severity subsystem (hsaid _ h)
    | registered handle => exact .registered handle
    | outside env => exact .outside env
  | visit hd handle _ ih => exact .visit hd handle ih

end Course

theorem course_tour (s : System) (l : List (DriverId × HandleRef)) :
    Course Said s (s.tour l)
      (s.call (l.forM fun (id, handle) => do
        let _ ← Core.evaluateDriver id (← Core.readHandle handle))).2 := by
  induction l generalizing s with
  | nil => exact .nil _
  | cons entry rest ih =>
    obtain ⟨id, handle⟩ := entry
    obtain ⟨outcome, t, hrun⟩ : ∃ outcome t,
        s.call (Core.evaluateDriver id (s.env.readHandle handle)) = (outcome, t) := ⟨_, _, rfl⟩
    have hfirst : s.call (do
        let _ ← Core.evaluateDriver id (← Core.readHandle handle) : Call PUnit) =
          s.call (Core.evaluateDriver id (s.env.readHandle handle) >>= fun _ => pure ()) := rfl
    change Course Said s (s.tour ((id, handle) :: rest)) (s.call (_ >>= fun _ => rest.forM _)).2
    cases hd : s.core.health.find? id with
    | none =>
      obtain ⟨env, hunknown⟩ := Core.evaluateDriver_unknown hd (s.env.readHandle handle)
      simp only [tour, hd]
      rw [call_andThen_error (hfirst.trans (call_andThen_error hunknown))]
      exact .turn (.outside env) (.nil _)
    | some d =>
      have hvisit : Course Said s _ _ := .of_visit hd handle
      rw [show (s.visit id handle).after = t from congrArg Prod.snd hrun] at hvisit
      simp only [tour, hd, hrun]
      cases outcome with
      | ok status =>
        rw [call_andThen_ok (hfirst.trans (call_andThen_ok hrun))]
        exact hvisit.append (ih t)
      | error e =>
        rw [call_andThen_error (hfirst.trans (call_andThen_error hrun))]
        exact hvisit

theorem course_checkAllDriverHealth (s : System) :
    Course Said s s.fullTour (s.call Core.checkAllDriverHealth).2 := by
  unfold fullTour
  cases hready : s.core.initialized with
  | false =>
    rw [show s.call Core.checkAllDriverHealth = s.call (Core.ensureReady >>= _) from rfl,
      call_unready hready]
    exact .nil _
  | true =>
    rw [show s.call Core.checkAllDriverHealth = s.call (Core.ensureReady >>= fun _ => _) from rfl,
      call_ready hready]
    have htour : Course Said s _ _ := course_tour s s.core.health.handles
    rwa [← call_andThen_pure s _ fun _ => s.core.health.handles.length] at htour

theorem call_updateDriverHealth_ok {s : System} (hready : s.core.initialized = true)
    {id : DriverId} {d : DriverHealth} (hd : s.core.health.find? id = some d) :
    s.call (Core.updateDriverHealth id) =
      s.call (Core.evaluateDriver id (s.env.readHandle d.handle)) := by
  have hrun : s.call (Core.updateDriverHealth id) = s.call (Core.ensureReady >>= fun _ => _) := rfl
  have hread := call_readHealth s (·.get id)
  rw [HealthTable.get_ok hd] at hread
  rw [hrun, call_ready hready, call_andThen_ok hread]
  rfl

theorem call_updateDriverHealth_unknown {s : System} (hready : s.core.initialized = true)
    {id : DriverId} (hd : s.core.health.find? id = none) :
    s.call (Core.updateDriverHealth id) = (.error .notFound, s) := by
  have hrun : s.call (Core.updateDriverHealth id) = s.call (Core.ensureReady >>= fun _ => _) := rfl
  have hread := call_readHealth s (·.get id)
  rw [HealthTable.get_error hd] at hread
  rw [hrun, call_ready hready, call_andThen_error hread]

theorem course_updateDriverHealth (s : System) (id : DriverId) :
    Course Said s (s.soleVisit id) (s.call (Core.updateDriverHealth id)).2 := by
  unfold soleVisit
  cases hready : s.core.initialized with
  | false =>
    rw [show s.call (Core.updateDriverHealth id) = s.call (Core.ensureReady >>= _) from rfl,
      call_unready hready]
    cases s.core.health.find? id with
    | none => exact .nil _
    | some d => exact .nil _
  | true =>
    cases hd : s.core.health.find? id with
    | none =>
      rw [call_updateDriverHealth_unknown hready hd]
      exact .nil _
    | some d =>
      rw [call_updateDriverHealth_ok hready hd]
      exact .of_visit hd d.handle

theorem course_slice_health (s : System) :
    Course Said s s.collectorTour ((Core.slice .health).run s).2 := by
  unfold collectorTour
  unfold Core.slice
  rw [Core.run_get_bind]
  cases hfind : s.core.collectors.find? (·.kind = .health) with
  | none => exact .nil _
  | some collector =>
    have hkind : collector.kind = .health := by simpa using List.find?_some hfind
    dsimp only
    split
    · exact .of_steps ((Core.steady_putCollector _ _).stepwise s).steps (.nil _)
    · have htick : ((Core.tick collector).run s).2 = (s.call Core.checkAllDriverHealth).2 := by
        unfold Core.tick
        rw [hkind]
        rfl
      have hput := (Core.steady_putCollector .health ((Core.tick collector).run s).1).stepwise
        ((Core.tick collector).run s).2
      have hcheck : Course Said s _ _ := course_checkAllDriverHealth s
      rw [← htick] at hcheck
      have hboth := hcheck.append (.of_steps hput.steps (.nil _))
      rwa [List.append_nil] at hboth

end System

namespace Happening

open DriverTelemetry.Core

/-- Whether a happening may evaluate drivers after their registration. -/
def evaluates : Happening → Bool
  | updateDriverHealth _ | checkAllDriverHealth | backgroundSlice => true
  | _ => false

/-- What others do to the surroundings in a happening satisfies a predicate. -/
def Outside (P : (Environment → Environment) → Prop) : Happening → Prop
  | surroundings change => P change
  | benchmark _ _ operation => ∀ i, P (operation i)
  | _ => True

theorem outside_of_forall {P : (Environment → Environment) → Prop} (h : ∀ change, P change)
    (x : Happening) : x.Outside P := by
  cases x with
  | surroundings change => exact h change
  | benchmark name iterations operation => exact fun i => h (operation i)
  | _ => trivial

/-- Whether a happening may look for leaks. -/
def looksForLeaks : Happening → Bool
  | scanLeaks _ | runAnalyticsCycle | systemHealthCheck | backgroundSlice => true
  | _ => false

/-- Whether a happening may set the level of a metric. -/
def setsLevels : Happening → Bool
  | updateGauge .. | adjustGauge .. | recordBandwidth .. | trackAlloc .. | trackFree _
  | collectPerformanceSample | backgroundSlice => true
  | _ => false

/-- An entry that a happening may make in the accounts. -/
inductive Entry : Happening → System → System → Prop
  | leaks {x : Happening} (h : x.looksForLeaks = true) (s : System) (n : Nat) :
      Entry x s { s with core.counters.leaksDetected := s.core.counters.leaksDetected + n }
  | tracked {address size : Nat} {file : String} {line : Nat} {owner : Option DriverId} (s : System)
      (record : AllocationRecord) :
      Entry (trackAlloc address size file line owner) s
        { s with core.tracker := (s.core.tracker.perform (.alloc record)).2 }
  | freed {address : Nat} (s : System) :
      Entry (trackFree address) s
        { s with core.tracker := (s.core.tracker.perform (.free address)).2 }
  | unknown {address : Nat} (s : System) :
      Entry (trackFree address) s
        { s with core.counters.untrackedFrees := s.core.counters.untrackedFrees + 1 }

theorem Entry.steps {x : Happening} {s t : System} (h : x.Entry s t) : s.Steps t := by
  cases h with
  | leaks _ s n => exact .single (.leaksCounted n)
  | tracked s record =>
    rw [AllocationTracker.perform]
    cases htrack : s.core.tracker.trackAlloc record with
    | ok tracker => exact .single (.allocationTracked htrack)
    | error e => exact .refl
  | @freed address s =>
    rw [AllocationTracker.perform]
    cases hfree : s.core.tracker.trackFree address with
    | ok answer => exact .single (.allocationFreed hfree)
    | error e => exact .refl
  | unknown s => exact .single .untrackedCounted

section Entries

variable {R : System → System → Prop} [IsPreorder System R]

theorem within_trackAlloc {address size : Nat} {file : String} {line : Nat}
    {owner : Option DriverId} (hquiet : ∀ {s t : System}, System.Quietly System.Step s t → R s t)
    (hentry : ∀ {s t : System}, (trackAlloc address size file line owner).Entry s t → R s t) :
    Within R (Core.trackAlloc address size file line owner).run := by
  intro s
  change R s (s.call (Core.trackAlloc address size file line owner)).2
  cases hready : s.core.initialized with
  | false =>
    have hrun : s.call (Core.trackAlloc address size file line owner) =
        s.call (ensureReady >>= fun _ => _) := rfl
    rw [hrun, System.call_unready hready]
    exact refl s
  | true =>
    obtain ⟨u, record, hbefore, hafter⟩ :=
      System.trackAlloc_steps hready address size file line owner
    have hfirst := System.related_of_chain (R := R) hquiet hbefore
    have hlast := System.related_of_chain (R := R) hquiet hafter
    exact trans_of R hfirst (trans_of R (hentry (.tracked u record)) hlast)

theorem within_trackFree {address : Nat}
    (hquiet : ∀ {s t : System}, System.Quietly System.Step s t → R s t)
    (hentry : ∀ {s t : System}, (trackFree address).Entry s t → R s t) :
    Within R (Core.trackFree address).run := by
  intro s
  change R s (s.call (Core.trackFree address)).2
  cases hready : s.core.initialized with
  | false =>
    have hrun : s.call (Core.trackFree address) = s.call (ensureReady >>= fun _ => _) := rfl
    rw [hrun, System.call_unready hready]
    exact refl s
  | true =>
    obtain ⟨-, hafter⟩ | ⟨-, hafter⟩ := System.trackFree_steps hready address
    · exact trans_of R (hentry (.freed s)) (System.related_of_chain (R := R) hquiet hafter)
    · exact trans_of R (hentry (.unknown s)) (System.related_of_chain (R := R) hquiet hafter)

/-- A happening that may set levels and evaluates no driver keeps to whatever holds of quiet steps
and of the entries that it may make in the accounts. -/
theorem within_setting {x : Happening}
    (hquiet : ∀ {s t : System}, System.Quietly System.Step s t → R s t)
    (hentry : ∀ {s t : System}, x.Entry s t → R s t) (hx : x.setsLevels = true)
    (h : x.evaluates = false) : Within R x.act := by
  have hcall : ∀ {α : Type} {c : Call α}, Stepwise c.run → Within R (attempt c) :=
    fun hc => .attempt (.of_chain hquiet hc)
  cases x with
  | updateGauge => exact hcall (steady_updateGauge _ _).stepwise
  | adjustGauge => exact hcall (steady_adjustGauge _ _).stepwise
  | recordBandwidth => exact hcall (steady_recordBandwidth _ _ _ _).stepwise
  | trackAlloc => exact .attempt (within_trackAlloc hquiet hentry)
  | trackFree => exact .attempt (within_trackFree hquiet hentry)
  | collectPerformanceSample => exact hcall fun s => (steady_collectPerformanceSample s).quiet
  | backgroundSlice => cases h
  | _ => cases hx

end Entries

/-- A happening that evaluates no driver keeps to whatever holds of steady steps, of the leaks that
it may count, of the levels that it may set, of what producers say in it, of registering a driver,
and of what others do in it. -/
theorem within_steady_act {R : System → System → Prop} [IsPreorder System R] {x : Happening}
    (hsteady : ∀ {s t : System}, System.Steadily [] System.Step s t → R s t)
    (hleaks : x.looksForLeaks = true → ∀ (s : System) (n : Nat),
      R s { s with core.counters.leaksDetected := s.core.counters.leaksDetected + n })
    (hsetting : x.setsLevels = true → Within R x.act)
    (hsay : ∀ severity subsystem {fill : Payload → Payload}, x.Says (fill .blank).message →
      Within R (emit severity subsystem fill))
    (hregister : ∀ handle, Within R (Core.registerDriver handle).run) (h : x.evaluates = false)
    (houtside : x.Outside fun change => ∀ s : System, R s { s with env := change s.env }) :
    Within R x.act := by
  have hcall : ∀ {α : Type} {c : Call α}, Steady c.run → Within R (attempt c) :=
    fun hc => .attempt (.of_chain hsteady hc)
  have hready : Within R ensureReady.run := .of_chain hsteady steady_ensureReady
  have hscans : x.looksForLeaks = true → ∀ {s t : System} {l : List LeakSummary}, s.Scans l t →
      R s t := fun hx _ _ _ h => h.related hsteady (hleaks hx)
  cases x with
  | surroundings change => exact .modify houtside
  | log => exact .attempt (hready.andThen fun _ => .lift (hsay _ _ rfl))
  | logPieces => exact .attempt (hready.andThen fun _ => .lift (hsay _ _ rfl))
  | logEvent => exact .attempt (hready.andThen fun _ => .lift (hsay _ _ rfl))
  | check => exact .of_chain hsteady (steady_check _ _ _ _ _)
  | drainEvents => exact hcall steady_drainEvents
  | recentEvents => exact hcall (steady_recentEvents _)
  | registerMetric => exact hcall (steady_registerMetric _ _ _ _)
  | registerStandardMetrics => exact hcall steady_registerStandardMetrics
  | updateCounter => exact hcall (steady_updateCounter _ _)
  | recordHistogram => exact hcall (steady_recordHistogram _ _)
  | updateTimer => exact hcall (steady_updateTimer _ _)
  | setMetricEnabled => exact hcall (steady_setMetricEnabled _ _)
  | lookup => exact hcall (steady_lookup _)
  | ratePerSecond => exact hcall (steady_ratePerSecond _)
  | recordError => exact hcall (steady_recordError _ _)
  | startTimer => exact hcall (steady_startTimer _)
  | startTimerFor => exact hcall (steady_startTimerFor _ _)
  | stopTimer => exact hcall (steady_stopTimer _)
  | scanLeaks => exact .attempt fun s => hscans rfl (s.scans_scanLeaks _)
  | registerDriver => exact .attempt (hregister _)
  | driverHealth => exact hcall (steady_driverHealth _)
  | driverHealthRecord => exact hcall (steady_driverHealthRecord _)
  | setAutoRecovery => exact hcall (steady_setAutoRecovery _ _ _)
  | setRestartHook => exact .of_chain hsteady (steady_setRestartHook _)
  | setAnalyticsHook => exact .of_chain hsteady (steady_setAnalyticsHook _)
  | detectAnomalies => exact hcall steady_detectAnomalies
  | runAnalyticsCycle => exact .attempt fun s => hscans rfl s.scans_runAnalyticsCycle
  | configure => exact hcall (steady_configure _)
  | generateReport => exact hcall (steady_generateReport _)
  | dashboard => exact hcall steady_dashboard
  | systemHealthCheck => exact .attempt fun s => hscans rfl s.scans_systemHealthCheck
  | benchmark => exact .attempt (within_benchmark hsteady _ _ fun i => .modify (houtside i))
  | shutdown => exact .of_chain hsteady steady_shutdown
  | updateGauge | adjustGauge | recordBandwidth | trackAlloc | trackFree
  | collectPerformanceSample => exact hsetting rfl
  | updateDriverHealth | checkAllDriverHealth | backgroundSlice => cases h

/-- A happening that evaluates no driver keeps to whatever holds of quiet steps, of the entries that
it may make in the accounts, of what producers say in it, of registering a driver, and of what
others do in it. -/
theorem within_act {R : System → System → Prop} [IsPreorder System R] {x : Happening}
    (hquiet : ∀ {s t : System}, System.Quietly System.Step s t → R s t)
    (hentry : ∀ {s t : System}, x.Entry s t → R s t)
    (hsay : ∀ severity subsystem {fill : Payload → Payload}, x.Says (fill .blank).message →
      Within R (emit severity subsystem fill))
    (hregister : ∀ handle, Within R (Core.registerDriver handle).run) (h : x.evaluates = false)
    (houtside : x.Outside fun change => ∀ s : System, R s { s with env := change s.env }) :
    Within R x.act :=
  within_steady_act (fun hsteady => hquiet hsteady.1) (fun hx s n => hentry (.leaks hx s n))
    (fun hx => within_setting hquiet hentry hx h) hsay hregister h houtside

end Happening

namespace System

/-- A happening takes turns and makes the visits that are listed for it. -/
theorem course_perform (s : System) (x : Happening) :
    Course x.Says s (s.visitsOf x) (s.perform x) := by
  cases hx : x.evaluates with
  | false =>
    have hnone : s.visitsOf x = [] := by
      cases x with
      | updateDriverHealth | checkAllDriverHealth | backgroundSlice => cases hx
      | _ => rfl
    rw [hnone]
    have houtside : x.Outside fun change =>
        ∀ s : System, Turns x.Says s { s with env := change s.env } :=
      x.outside_of_forall fun _ _ => .single (.outside _)
    have hsteps : ∀ {s t : System}, s.Steps t → Turns x.Says s t :=
      System.related_of_chain fun hstep => .single (.step hstep)
    exact .of_turns (Happening.within_act (fun hquiet => .single (.step hquiet.1))
      (fun hentry => hsteps hentry.steps)
      (fun severity subsystem _ h _ => .single (.said severity subsystem h))
      (fun handle _ => .single (.registered handle)) hx houtside s) (.nil _)
  | true =>
    cases x with
    | updateDriverHealth id => exact course_updateDriverHealth s id
    | checkAllDriverHealth => exact course_checkAllDriverHealth s
    | backgroundSlice =>
      have hbefore := (Core.stepwise_slice_performance s).steps
      have hafter := (scans_slice_analytics
        ((Core.slice .health).run ((Core.slice .performance).run s).2).2).steps
      have htour : Course Happening.backgroundSlice.Says _ _ _ :=
        course_slice_health ((Core.slice .performance).run s).2
      have hboth := htour.append (.of_steps hafter (.nil _))
      rw [List.append_nil] at hboth
      exact .of_steps hbefore hboth
    | _ => cases hx

theorem course_after (s : System) (xs : List Happening) :
    Course (fun m => ∃ x ∈ xs, x.Says m) s (s.visits xs) (s.after xs) := by
  induction xs generalizing s with
  | nil => exact .nil _
  | cons x rest ih =>
    refine ((course_perform s x).mono fun m hm => ⟨x, List.mem_cons_self, hm⟩).append ?_
    exact (ih _).mono fun m ⟨y, hy, hm⟩ => ⟨y, List.mem_cons_of_mem x hy, hm⟩

end System

end DriverTelemetry
