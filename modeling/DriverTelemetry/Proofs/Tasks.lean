import DriverTelemetry.Proofs.Evaluation
import DriverTelemetry.Proofs.MetricUpdates

/-!
# Calls section by section

Between its readiness check and its end a call passes through critical sections and holds no lock
between them. A `Task` is what is left of a call: its outcome, or the next section and what comes
after it, which depends on what the section finds. `Request` lists the calls that enter something
into a table, and `Request.task` is such a call, with the readiness check as its first section;
passed through with nothing in between it is the call itself.
-/

namespace DriverTelemetry

/-- What is left of a call. -/
inductive Task where
  | finished (failure : Option TelemetryError)
  | step (effect : System → System) (rest : System → Task)

/-- What a call comes to: why it has failed, if it has, and the system that it leaves. -/
def System.outcome {α : Type} (s : System) (c : Call α) : Option TelemetryError × System :=
  match s.call c with
  | (.ok _, t) => (none, t)
  | (.error e, t) => (some e, t)

namespace Task

/-- An action as one section. -/
def through {α : Type} (a : Action α) (k : α → Task) : Task :=
  step (fun s => (a.run s).2) fun s => k (a.run s).1

def onSuccess {α : Type} (k : α → Task) : Except TelemetryError α → Task
  | .ok x => k x
  | .error e => finished (some e)

/-- A section that the call fails with. -/
def attempt {α : Type} (c : Call α) (k : α → Task) : Task := through c.run (onSuccess k)

/-- A call whose sections have nothing in between. -/
def alone : Task → System → Option TelemetryError × System
  | finished failure, s => (failure, s)
  | step effect rest, s => (rest s).alone (effect s)

def registerMetric (name description : String) (kind : MetricKind) (subsystem : Subsystem) : Task :=
  attempt Core.ensureReady fun _ =>
  through Core.readClock fun now =>
  attempt (Core.onRegistry (·.register name description kind subsystem now)) fun id =>
  through (Core.emit .info subsystem fun p =>
    { p.setMessage s!"Registered metric '{name}' (ID: {id.text}, Type: {kind.name})" with
      metric := some id }) fun _ =>
  finished none

def log (severity : Severity) (subsystem : Subsystem) (message : String) : Task :=
  attempt Core.ensureReady fun _ =>
  through (Core.emit severity subsystem (·.setMessage message)) fun _ =>
  finished none

/-- The section of `Core.applyUpdate` that moves a level and measures what that costs. -/
def moveLevel (id : MetricId) (delta : Int) (start : Nat) : Call Unit := do
  let _ ← Core.onRegistry fun r => r.adjustLevel id delta start
  let overheadNs := (← Core.readClock) - start
  Core.change fun c => { c with registry := c.registry.noteOverhead id overheadNs }
  Core.count (·.recordUpdate overheadNs)

/-- Whatever becomes of the update, it is no failure. -/
def adjustTrackedMemory (delta : Int) : Task :=
  through (do return (← get).core.predefined.trackedMemory) fun id =>
  if id.isValid then
    through Core.ensureReady.run fun
      | .error _ => finished none
      | .ok () =>
        through (do return (← get).core.enabled) fun enabled =>
        if enabled then
          through Core.readClock fun start =>
          through (moveLevel id delta start).run fun _ =>
          finished none
        else finished none
  else finished none

def trackAlloc (address size : Nat) (file : String) (line : Nat) (owner : Option DriverId) : Task :=
  attempt Core.ensureReady fun _ =>
  through Core.readClock fun now =>
  through (do return (← get).env.platform.thread) fun thread =>
  attempt (Core.onTracker fun t =>
    (t.trackAlloc { address, size, allocatedNs := now, file, line, thread, owner }).map ((), ·))
    fun _ =>
  adjustTrackedMemory (SignedWord.wrap size)

def giveUp (eval : Evaluation) (attemptedRestart : Bool) (reason : Option String) : Task :=
  through Core.readClock fun now =>
  attempt (Core.onHealth (·.markFailed eval.id now attemptedRestart)) fun before =>
  through (Core.logTransition eval.name before .failed reason) fun _ =>
  finished none

def noteRestart (eval : Evaluation) : Task :=
  through (Core.onHealth (·.recordRestart eval.id)).run fun
    | .ok restarts =>
      through (Core.emitText .recovery .core (Core.restartText eval.name restarts)) fun _ =>
      finished none
    | .error _ =>
      through (Core.internalError "health record lost during recovery") fun e =>
      finished (some e)

def recover (eval : Evaluation) : Task :=
  through (do return (← get).core.restartHook.filter fun _ => eval.autoRecovery) fun
    | none => giveUp eval false none
    | some hook =>
      through (Core.count fun c => { c with recoveriesAttempted := c.recoveriesAttempted + 1 })
        fun _ =>
      through (Core.emitText .recovery .core (Core.noticeText eval.name eval.failures)) fun _ =>
      through (Core.callHook hook eval.handle) fun
        | none => noteRestart eval
        | some failure => giveUp eval true (some failure.message)

def registerDriver (handle : HandleRef) : Task :=
  attempt Core.ensureReady fun _ =>
  through get fun s =>
  through (Core.readHandle handle) fun readings =>
  through Core.readClock fun now =>
  attempt (Core.onHealth
    (·.register (s.env.handleName handle) handle readings s.core.config.autoRecovery
      s.core.config.recoveryThreshold.toNat now)) fun eval =>
  through (Core.emitText .info .core (Core.registrationText eval.name eval.id eval.after)) fun _ =>
  if eval.recoveryDue then recover eval else finished none

section Alone

variable {α β : Type} {k : Task} {c : Call α}

/-- A task that, alone, does what a call does. -/
def Renders (k : Task) (c : Call α) : Prop := ∀ s, k.alone s = s.outcome c

theorem Renders.pure (x : α) : Renders (finished none) (pure x : Call α) := fun _ => rfl

theorem Renders.throw (e : TelemetryError) : Renders (finished (some e)) (throw e : Call α) :=
  fun _ => rfl

theorem Renders.attempt {k : α → Task} {f : α → Call β} (h : ∀ x, Renders (k x) (f x)) :
    Renders (attempt c k) (c >>= f) := by
  intro s
  change (onSuccess k (s.call c).1).alone (s.call c).2 = s.outcome (c >>= f)
  obtain ⟨x, t, hrun, hwhole⟩ | ⟨e, t, hrun, hwhole⟩ := s.call_andThen_cases c f
  · rw [hrun]
    refine (h x t).trans ?_
    rw [System.outcome, System.outcome, hwhole]
  · rw [hrun, System.outcome, hwhole]
    rfl

theorem Renders.through {a : Action α} {k : α → Task} {f : α → Call β}
    (h : ∀ x, Renders (k x) (f x)) : Renders (through a k) (liftM a >>= f) :=
  fun s => h (a.run s).1 (a.run s).2

/-- An action that a call ends with. -/
theorem Renders.last {k : Task} {a : Action α} (h : ∀ s, k.alone s = (none, (a.run s).2)) :
    Renders k (liftM a) :=
  h

theorem renders_registerMetric (name description : String) (kind : MetricKind)
    (subsystem : Subsystem) :
    Renders (registerMetric name description kind subsystem)
      (Core.registerMetric name description kind subsystem) :=
  .attempt fun _ => .through fun _ => .attempt fun id => .through fun _ => .pure id

theorem renders_log (severity : Severity) (subsystem : Subsystem) (message : String) :
    Renders (log severity subsystem message) (Core.log severity subsystem message) :=
  .attempt fun _ => .last fun _ => rfl

/-- The update of a core that accepts calls and has its master switch on. -/
theorem call_adjustGauge_of_enabled {s : System} (hready : s.core.initialized = true)
    (henabled : s.core.enabled = true) (id : MetricId) (delta : Int) :
    (s.call (Core.adjustGauge id delta)).2 =
      (System.call (Core.readClock.run s).2 (moveLevel id delta (Core.readClock.run s).1)).2 := by
  have hgauge : (s.call (Core.adjustGauge id delta)).2 =
      (s.call (Core.applyUpdate id fun r now => r.adjustLevel id delta now)).2 :=
    s.call_andThen_pure _ fun _ => ()
  have hupdate : s.call (Core.applyUpdate id fun r now => r.adjustLevel id delta now) =
      s.call (Core.ensureReady >>= fun _ => _) := rfl
  rw [hgauge, hupdate, System.call_ready hready, System.call_get_andThen, if_pos henabled,
    System.call_lift_andThen, moveLevel]
  let start := (Core.readClock.run s).1
  let read := (Core.readClock.run s).2
  let update : Registry → Except TelemetryError (Int × Registry) := (·.adjustLevel id delta start)
  cases hlevel : update read.core.registry with
  | error e =>
    rw [System.call_andThen_error (System.call_onRegistry_error hlevel),
      System.call_andThen_error (System.call_onRegistry_error hlevel)]
  | ok answer =>
    rw [System.call_andThen_ok (System.call_onRegistry_ok hlevel),
      System.call_andThen_ok (System.call_onRegistry_ok hlevel)]
    rfl

theorem alone_adjustTrackedMemory (s : System) (delta : Int) :
    (adjustTrackedMemory delta).alone s = (none, ((Core.adjustTrackedMemory delta).run s).2) := by
  let id := s.core.predefined.trackedMemory
  have hrun : (Core.adjustTrackedMemory delta).run s =
      (if id.isValid then (do let _ ← (Core.adjustGauge id delta).run) else pure ()).run s := rfl
  rw [hrun]
  change (if id.isValid then through _ _ else finished none).alone s = _
  by_cases hid : id.isValid = true
  · rw [if_pos hid, if_pos hid]
    change (match (s.call Core.ensureReady).1 with
      | .error _ => finished none
      | .ok () => through _ _).alone (s.call Core.ensureReady).2 =
        (none, (s.call (Core.adjustGauge id delta)).2)
    cases hready : s.core.initialized with
    | false =>
      have hgauge : s.call (Core.adjustGauge id delta) = (.error .notInitialized, s) :=
        System.call_andThen_error (System.call_applyUpdate_unready hready)
      rw [System.call_ensureReady_error hready, hgauge]
      rfl
    | true =>
      rw [System.call_ensureReady_ok hready]
      change (if s.core.enabled then through _ _ else finished none).alone s = _
      cases henabled : s.core.enabled with
      | false =>
        have hgauge : s.call (Core.adjustGauge id delta) = (.ok (), s) :=
          System.call_andThen_ok (System.call_applyUpdate_off hready henabled)
        rw [hgauge]
        rfl
      | true =>
        rw [call_adjustGauge_of_enabled hready henabled]
        rfl
  · rw [if_neg hid, if_neg hid]
    rfl

theorem renders_trackAlloc (address size : Nat) (file : String) (line : Nat)
    (owner : Option DriverId) :
    Renders (trackAlloc address size file line owner)
      (Core.trackAlloc address size file line owner) := by
  refine .attempt fun _ => .through fun now => ?_
  intro s
  exact Renders.attempt (fun _ => .last fun t => alone_adjustTrackedMemory t _) s

theorem renders_giveUp (eval : Evaluation) (attempted : Bool) (reason : Option String) :
    Renders (giveUp eval attempted reason) (Core.giveUp eval attempted reason) :=
  .through fun _ => .attempt fun _ => .through fun _ => .pure _

theorem renders_noteRestart (eval : Evaluation) :
    Renders (noteRestart eval) (Core.noteRestart eval) := by
  intro s
  have hwhole : s.call (Core.noteRestart eval) = s.call (get >>= fun s => _) := rfl
  change (match (s.call (Core.onHealth (·.recordRestart eval.id))).1 with
    | .ok restarts => through _ _
    | .error _ => through _ _).alone (s.call (Core.onHealth (·.recordRestart eval.id))).2 = _
  rw [System.outcome, hwhole, System.call_get_andThen]
  cases hrecord : s.core.health.recordRestart eval.id with
  | error e =>
    rw [System.call_onHealth_error hrecord]
    rfl
  | ok answer =>
    rw [System.call_onHealth_ok hrecord]
    rfl

theorem renders_recover (eval : Evaluation) : Renders (recover eval) (Core.recover eval) := by
  intro s
  have hwhole : s.call (Core.recover eval) = s.call (get >>= fun s => _) := rfl
  change (match s.core.restartHook.filter fun _ => eval.autoRecovery with
    | none => giveUp eval false none
    | some hook => through _ _).alone s = _
  rw [System.outcome, hwhole, System.call_get_andThen]
  cases s.core.restartHook.filter fun _ => eval.autoRecovery with
  | none => exact renders_giveUp eval false none s
  | some hook =>
    refine Renders.through (fun _ => .through fun _ => .through fun failure => ?_) s
    cases failure with
    | none => exact renders_noteRestart eval
    | some failure => exact renders_giveUp eval true (some failure.message)

theorem renders_registerDriver (handle : HandleRef) :
    Renders (registerDriver handle) (Core.registerDriver handle) := by
  refine .attempt fun _ => .through fun s => .through fun readings => .through fun now =>
    .attempt fun eval => .through fun _ => ?_
  intro t
  by_cases hdue : eval.recoveryDue = true
  · rw [if_pos hdue, if_pos hdue]
    refine (renders_recover eval t).trans ?_
    obtain ⟨x, u, hrun, hwhole⟩ | ⟨e, u, hrun, hwhole⟩ :=
      t.call_andThen_cases (Core.recover eval) fun _ => pure eval.id
    · rw [System.outcome, hrun, System.outcome, hwhole]
      rfl
    · rw [System.outcome, hrun, System.outcome, hwhole]
  · rw [if_neg hdue, if_neg hdue]
    rfl

end Alone

end Task

/-- A call that enters something into a table of the core. -/
inductive Request where
  | registerMetric (name description : String) (kind : MetricKind) (subsystem : Subsystem)
  | log (severity : Severity) (subsystem : Subsystem) (message : String)
  | trackAlloc (address size : Nat) (file : String) (line : Nat) (owner : Option DriverId)
  | registerDriver (handle : HandleRef)

namespace Request

def task : Request → Task
  | registerMetric name description kind subsystem =>
    .registerMetric name description kind subsystem
  | log severity subsystem message => .log severity subsystem message
  | trackAlloc address size file line owner => .trackAlloc address size file line owner
  | registerDriver handle => .registerDriver handle

def outcome (s : System) : Request → Option TelemetryError × System
  | registerMetric name description kind subsystem =>
    s.outcome (Core.registerMetric name description kind subsystem)
  | log severity subsystem message => s.outcome (Core.log severity subsystem message)
  | trackAlloc address size file line owner =>
    s.outcome (Core.trackAlloc address size file line owner)
  | registerDriver handle => s.outcome (Core.registerDriver handle)

/-- Without anything in between, the sections of a call are the call. -/
theorem alone_task (r : Request) (s : System) : r.task.alone s = outcome s r := by
  cases r with
  | registerMetric name description kind subsystem =>
    exact Task.renders_registerMetric name description kind subsystem s
  | log severity subsystem message => exact Task.renders_log severity subsystem message s
  | trackAlloc address size file line owner =>
    exact Task.renders_trackAlloc address size file line owner s
  | registerDriver handle => exact Task.renders_registerDriver handle s

/-- The first section of a call on a core that accepts none is its last. -/
theorem task_refused (r : Request) {s : System} (h : s.core.initialized = false) :
    ∃ effect rest, r.task = .step effect rest ∧ effect s = s ∧
      rest s = .finished (some .notInitialized) := by
  have hrefused : s.call Core.ensureReady = (.error .notInitialized, s) :=
    System.call_ensureReady_error h
  have hfirst : ∀ k : Unit → Task, ∃ effect rest,
      Task.attempt Core.ensureReady k = .step effect rest ∧ effect s = s ∧
        rest s = .finished (some .notInitialized) := by
    intro k
    refine ⟨_, _, rfl, congrArg Prod.snd hrefused, ?_⟩
    change Task.onSuccess k (s.call Core.ensureReady).1 = _
    rw [hrefused]
    rfl
  cases r <;> exact hfirst _

end Request

end DriverTelemetry
