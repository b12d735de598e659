import DriverTelemetry.Proofs.Tasks

/-!
# What the sections of a call do to the tables

A section of a call that enters something into a table leaves none of the tables of the core shorter
than it was, and leaves the core accepting calls or not as before, unless it calls a restart hook
that shuts the core down. `System.Grows` says so of one section and `Task.Growing` of all sections
that a call can still come to.
-/

namespace DriverTelemetry

/-- The tables of a core that calls enter something into. -/
inductive CoreTable where
  | registry | events | health | tracker
  deriving DecidableEq

/-- The number of entries in a table. -/
def CoreTable.size (c : Core) : CoreTable → Nat
  | registry => c.registry.size
  | events => c.events.size
  | health => c.health.size
  | tracker => c.tracker.records.length

/-- No restart hook shuts a core down. -/
def Environment.HooksLeaveRunning (env : Environment) : Prop :=
  ∀ hook ∈ env.hooks, ∀ outcome ∈ hook.outcomes, outcome.shutsDown = false

section Sizes

theorem Registry.size_modify (r : Registry) (id : MetricId) (f : Metric → Metric) :
    (r.modify id f).size = r.size := by
  unfold modify
  split
  · rfl
  · exact List.length_modify f r.metrics _

theorem Registry.size_register {r r' : Registry} {name description : String} {kind : MetricKind}
    {subsystem : Subsystem} {nowNs : Nat} {id : MetricId}
    (h : r.register name description kind subsystem nowNs = .ok (id, r')) :
    r'.size = r.size + 1 := by
  unfold register at h
  split at h
  · cases h
  · split at h
    · cases h
    · cases h
      exact List.length_append

theorem Registry.size_adjustLevel {r r' : Registry} {id : MetricId} {delta level : Int}
    {nowNs : Nat} (h : r.adjustLevel id delta nowNs = .ok (level, r')) : r'.size = r.size := by
  obtain ⟨⟨before, after⟩, hupdate, hok⟩ := bind_eq_ok h
  obtain ⟨-, -, value, -, rfl⟩ := Registry.update_ok hupdate
  cases hok
  exact r.size_modify id _

theorem EventRing.size_push_of_lt {r : EventRing} (h : r.size < r.capacity) {severity : Severity}
    {subsystem : Subsystem} {origin : Origin} {fill : Payload → Payload} :
    (r.push severity subsystem origin fill).2.size = r.size + 1 := by
  have hroom : r.slots.size < r.capacity := h
  unfold push
  dsimp only
  rw [if_pos hroom]
  exact Array.size_push _

theorem EventRing.size_push (r : EventRing) (severity : Severity) (subsystem : Subsystem)
    (origin : Origin) (fill : Payload → Payload) :
    r.size ≤ (r.push severity subsystem origin fill).2.size := by
  unfold push
  dsimp only
  split
  · simp [size]
  · simp [size]

theorem HealthTable.size_modify (t : HealthTable) (id : DriverId)
    (f : DriverHealth → DriverHealth) : (t.modify id f).size = t.size := by
  unfold modify
  split
  · rfl
  · exact List.length_modify f t.drivers _

theorem HealthTable.size_apply {t t' : HealthTable} {id : DriverId} {readings : DriverReadings}
    {nowNs : Nat} {eval : Evaluation} (h : t.apply id readings nowNs = .ok (eval, t')) :
    t'.size = t.size := by
  obtain ⟨d, -, hok⟩ := Registry.bind_eq_ok h
  cases hok
  exact t.size_modify id _

theorem HealthTable.size_markFailed {t t' : HealthTable} {id : DriverId} {nowNs : Nat}
    {attempted : Bool} {before : HealthStatus}
    (h : t.markFailed id nowNs attempted = .ok (before, t')) : t'.size = t.size := by
  obtain ⟨d, -, hok⟩ := Registry.bind_eq_ok h
  cases hok
  exact t.size_modify id _

theorem HealthTable.size_recordRestart {t t' : HealthTable} {id : DriverId} {restarts : Nat}
    (h : t.recordRestart id = .ok (restarts, t')) : t'.size = t.size := by
  obtain ⟨d, -, hok⟩ := Registry.bind_eq_ok h
  cases hok
  exact t.size_modify id _

theorem HealthTable.size_register {t t' : HealthTable} {name : String} {handle : HandleRef}
    {readings : DriverReadings} {auto : Bool} {threshold nowNs : Nat} {eval : Evaluation}
    (h : t.register name handle readings auto threshold nowNs = .ok (eval, t')) :
    t'.size = t.size + 1 := by
  unfold register at h
  split at h
  · cases h
  · rw [size_apply h]
    exact List.length_append

theorem AllocationTracker.length_trackAlloc {t t' : AllocationTracker} {r : AllocationRecord}
    (h : t.trackAlloc r = .ok t') : t.records.length ≤ t'.records.length := by
  unfold trackAlloc at h
  split at h
  · cases h
  · dsimp only at h
    split at h
    · cases h
      simp
    · split at h
      · cases h
        simp
      · cases h

end Sizes

namespace System

/-- A system that accepts calls just as another one does, with no table shrunk. -/
structure Grown (s t : System) : Prop where
  initialized_eq : t.core.initialized = s.core.initialized
  hooksLeaveRunning : t.env.HooksLeaveRunning
  size_le : ∀ table : CoreTable, table.size s.core ≤ table.size t.core

/-- What the sections of a call lead to. -/
def Grows (s t : System) : Prop := s.env.HooksLeaveRunning → s.Grown t

instance : IsPreorder System Grows where
  refl _ h := ⟨rfl, h, fun _ => Nat.le_refl _⟩
  trans _ _ _ h₁ h₂ h := by
    have hfirst := h₁ h
    have hsecond := h₂ hfirst.hooksLeaveRunning
    exact ⟨hsecond.initialized_eq.trans hfirst.initialized_eq, hsecond.hooksLeaveRunning,
      fun table => (hfirst.size_le table).trans (hsecond.size_le table)⟩

variable {s t : System}

theorem Grows.of_eq (hready : t.core.initialized = s.core.initialized)
    (hhooks : t.env.hooks = s.env.hooks)
    (hsize : ∀ table : CoreTable, table.size s.core ≤ table.size t.core) : s.Grows t := by
  intro h
  refine ⟨hready, ?_, hsize⟩
  unfold Environment.HooksLeaveRunning
  rw [hhooks]
  exact h

end System

namespace Core

open DriverTelemetry.System (Grows)

variable {α : Type}

theorem grows_ensureReady : Within Grows ensureReady.run := by
  refine .get_andThen fun s => ?_
  split
  · exact refl _
  · exact refl _

theorem grows_readClock : Within Grows readClock :=
  fun _ => .of_eq rfl rfl fun _ => Nat.le_refl _

theorem grows_emit (severity : Severity) (subsystem : Subsystem) (fill : Payload → Payload) :
    Within Grows (emit severity subsystem fill) := by
  refine fun s => .of_eq rfl rfl fun table => ?_
  cases table with
  | events => exact EventRing.size_push _ _ _ _ _
  | _ => exact Nat.le_refl _

theorem grows_emitText (severity : Severity) (subsystem : Subsystem) (message : String) :
    Within Grows (emitText severity subsystem message) :=
  (grows_emit _ _ _).bind fun _ => .pure _

theorem grows_count (f : LifetimeCounters → LifetimeCounters) : Within Grows (count f) := by
  refine fun s => .of_eq rfl rfl fun table => ?_
  cases table <;> exact Nat.le_refl _

theorem grows_onRegistry {f : Registry → Except TelemetryError (α × Registry)}
    (hf : ∀ {r x r'}, f r = .ok (x, r') → r.size ≤ r'.size) : Within Grows (onRegistry f).run := by
  intro s
  change s.Grows (s.call (onRegistry f)).2
  cases hok : f s.core.registry with
  | error e =>
    rw [System.call_onRegistry_error hok]
    exact refl _
  | ok answer =>
    rw [System.call_onRegistry_ok hok]
    refine .of_eq rfl rfl fun table => ?_
    cases table with
    | registry => exact hf hok
    | _ => exact Nat.le_refl _

theorem grows_onHealth {f : HealthTable → Except TelemetryError (α × HealthTable)}
    (hf : ∀ {t x t'}, f t = .ok (x, t') → t.size ≤ t'.size) : Within Grows (onHealth f).run := by
  intro s
  change s.Grows (s.call (onHealth f)).2
  cases hok : f s.core.health with
  | error e =>
    rw [System.call_onHealth_error hok]
    exact refl _
  | ok answer =>
    rw [System.call_onHealth_ok hok]
    refine .of_eq rfl rfl fun table => ?_
    cases table with
    | health => exact hf hok
    | _ => exact Nat.le_refl _

theorem grows_onTracker {f : AllocationTracker → Except TelemetryError (α × AllocationTracker)}
    (hf : ∀ {t x t'}, f t = .ok (x, t') → t.records.length ≤ t'.records.length) :
    Within Grows (onTracker f).run := by
  intro s
  change s.Grows (s.call (onTracker f)).2
  cases hok : f s.core.tracker with
  | error e =>
    rw [System.call_onTracker_error hok]
    exact refl _
  | ok answer =>
    rw [System.call_onTracker_ok hok]
    refine .of_eq rfl rfl fun table => ?_
    cases table with
    | tracker => exact hf hok
    | _ => exact Nat.le_refl _

theorem grows_noteOverhead (id : MetricId) (overheadNs : Nat) :
    Within Grows
      (change fun c => { c with registry := c.registry.noteOverhead id overheadNs }) := by
  refine fun s => .of_eq rfl rfl fun table => ?_
  cases table with
  | registry => exact (Registry.size_modify _ _ _).ge
  | _ => exact Nat.le_refl _

theorem grows_logTransition (name : Name) (before after : HealthStatus) (reason : Option String) :
    Within Grows (logTransition name before after reason) :=
  (grows_emit _ _ _).bind fun _ => .pure _

theorem grows_internalError (what : String) : Within Grows (internalError what) :=
  (grows_emitText _ _ _).bind fun _ => .pure _

theorem shutsDown_hookOutcome {s : System} (h : s.env.HooksLeaveRunning) (hook : HookRef) :
    (s.hookOutcome hook).shutsDown = false := by
  unfold System.hookOutcome RestartHook.next
  cases hfound : s.env.hooks[hook.index]? with
  | none => rfl
  | some found =>
    change (found.outcomes[min found.calls.length (found.outcomes.length - 1)]?.getD {}).shutsDown
      = false
    cases hnext : found.outcomes[min found.calls.length (found.outcomes.length - 1)]? with
    | none => rfl
    | some outcome =>
      exact h found (List.mem_of_getElem? hfound) outcome (List.mem_of_getElem? hnext)

theorem grows_callHook (hook : HookRef) (handle : HandleRef) :
    Within Grows (callHook hook handle) := by
  intro s hrunning
  obtain ⟨env, -, -, hhooks, -, hrun⟩ := run_callHook s hook handle
  rw [hrun, shutsDown_hookOutcome hrunning]
  refine ⟨rfl, ?_, fun table => Nat.le_refl _⟩
  change ∀ h ∈ env.hooks, _
  rw [hhooks]
  intro h hmem
  -- a call is noted in the hook, which keeps its outcomes
  obtain ⟨i, hi⟩ := List.mem_iff_getElem?.1 hmem
  rw [List.getElem?_modify] at hi
  obtain ⟨old, hold, hnew⟩ := Option.map_eq_some_iff.1 hi
  have houtcomes : h.outcomes = old.outcomes := by
    rw [← hnew]
    split <;> rfl
  rw [houtcomes]
  exact hrunning old (List.mem_of_getElem? hold)

theorem grows_moveLevel (id : MetricId) (delta : Int) (start : Nat) :
    Within Grows (Task.moveLevel id delta start).run :=
  (grows_onRegistry fun h => (Registry.size_adjustLevel h).ge).andThen fun _ =>
    .andThen (.lift grows_readClock) fun _ => .andThen (.lift (grows_noteOverhead _ _)) fun _ =>
      .lift (grows_count _)

end Core

namespace Task

/-- A task whose sections only grow tables. -/
inductive Growing : Task → Prop
  | finished (failure : Option TelemetryError) : Growing (.finished failure)
  | step {effect : System → System} {rest : System → Task}
    (heffect : ∀ s : System, s.Grows (effect s)) (hrest : ∀ s, Growing (rest s)) :
    Growing (.step effect rest)

variable {α : Type}

theorem Growing.through {a : Action α} {k : α → Task} (ha : Core.Within System.Grows a)
    (hk : ∀ x, Growing (k x)) : Growing (through a k) :=
  .step ha fun _ => hk _

theorem Growing.attempt {c : Call α} {k : α → Task} (hc : Core.Within System.Grows c.run)
    (hk : ∀ x, Growing (k x)) : Growing (attempt c k) := by
  refine .through hc fun outcome => ?_
  cases outcome with
  | ok x => exact hk x
  | error e => exact .finished _

theorem growing_giveUp (eval : Evaluation) (attempted : Bool) (reason : Option String) :
    Growing (giveUp eval attempted reason) :=
  .through Core.grows_readClock fun _ =>
    .attempt (Core.grows_onHealth fun h => (HealthTable.size_markFailed h).ge) fun _ =>
      .through (Core.grows_logTransition _ _ _ _) fun _ => .finished _

theorem growing_noteRestart (eval : Evaluation) : Growing (noteRestart eval) := by
  refine .through (Core.grows_onHealth fun h => (HealthTable.size_recordRestart h).ge)
    fun outcome => ?_
  cases outcome with
  | ok restarts => exact .through (Core.grows_emitText _ _ _) fun _ => .finished _
  | error e => exact .through (Core.grows_internalError _) fun _ => .finished _

theorem growing_recover (eval : Evaluation) : Growing (recover eval) := by
  refine .through (fun _ => refl _) fun hook => ?_
  cases hook with
  | none => exact growing_giveUp eval false none
  | some hook =>
    refine .through (Core.grows_count _) fun _ => .through (Core.grows_emitText _ _ _) fun _ =>
      .through (Core.grows_callHook hook _) fun failure => ?_
    cases failure with
    | none => exact growing_noteRestart eval
    | some failure => exact growing_giveUp eval true _

theorem growing_adjustTrackedMemory (delta : Int) : Growing (adjustTrackedMemory delta) := by
  refine .through (fun _ => refl _) fun id => ?_
  split
  · refine .through Core.grows_ensureReady fun outcome => ?_
    cases outcome with
    | error e => exact .finished _
    | ok _ =>
      refine .through (fun _ => refl _) fun enabled => ?_
      split
      · exact .through Core.grows_readClock fun start =>
          .through (Core.grows_moveLevel id delta start) fun _ => .finished _
      · exact .finished _
  · exact .finished _

end Task

/-- The sections of a call shrink no table. -/
theorem Request.growing_task (r : Request) : r.task.Growing := by
  cases r with
  | registerMetric name description kind subsystem =>
    exact .attempt Core.grows_ensureReady fun _ => .through Core.grows_readClock fun now =>
      .attempt (Core.grows_onRegistry fun h => (Registry.size_register h).ge.trans' (Nat.le_succ _))
        fun id => .through (Core.grows_emit _ _ _) fun _ => .finished _
  | log severity subsystem message =>
    exact .attempt Core.grows_ensureReady fun _ =>
      .through (Core.grows_emit _ _ _) fun _ => .finished _
  | trackAlloc address size file line owner =>
    refine .attempt Core.grows_ensureReady fun _ => .through Core.grows_readClock fun now =>
      .through (fun _ => refl _) fun thread => .attempt (Core.grows_onTracker ?_) fun _ =>
        Task.growing_adjustTrackedMemory _
    intro t x t' h
    obtain ⟨tracker, hok, heq⟩ := Registry.map_eq_ok h
    cases heq
    exact AllocationTracker.length_trackAlloc hok
  | registerDriver handle =>
    refine .attempt Core.grows_ensureReady fun _ => .through (fun _ => refl _) fun s =>
      .through (fun _ => refl _) fun readings => .through Core.grows_readClock fun now =>
        .attempt (Core.grows_onHealth fun h =>
          (HealthTable.size_register h).ge.trans' (Nat.le_succ _)) fun eval =>
            .through (Core.grows_emitText _ _ _) fun _ => ?_
    split
    · exact Task.growing_recover eval
    · exact .finished _

end DriverTelemetry
