import DriverTelemetry.Proofs.Numbering
import DriverTelemetry.Proofs.SmallSteps

/-!
# What an evaluation does to a driver

`DriverHealth.Settled` says what an evaluation makes of a health record: the record is evaluated
and, if that calls for recovery, restarted when there is a restart hook that works and given up
otherwise. The evaluation of a driver settles its record and touches no other, unless the restart
hook shuts the core down.
-/

namespace DriverTelemetry

namespace HealthTable

theorem modify_modify (t : HealthTable) (id : DriverId) (f g : DriverHealth → DriverHealth) :
    (t.modify id f).modify id g = t.modify id (g ∘ f) := by
  unfold modify
  split
  · rfl
  · simp [List.modify_modify_eq]

theorem get_ok {t : HealthTable} {id : DriverId} {d : DriverHealth} (h : t.find? id = some d) :
    t.get id = .ok d := by
  unfold get
  rw [h]

theorem get_error {t : HealthTable} {id : DriverId} (h : t.find? id = none) :
    t.get id = .error .notFound := by
  unfold get
  rw [h]

theorem markFailed_ok {t : HealthTable} {id : DriverId} {d : DriverHealth}
    (h : t.find? id = some d) (nowNs : Nat) (attemptedRestart : Bool) :
    t.markFailed id nowNs attemptedRestart =
      .ok (d.status, t.modify id (·.givenUp nowNs attemptedRestart)) := by
  unfold markFailed
  rw [get_ok h]
  rfl

theorem recordRestart_ok {t : HealthTable} {id : DriverId} {d : DriverHealth}
    (h : t.find? id = some d) :
    t.recordRestart id =
      .ok (d.restarted.recovery.restarts, t.modify id DriverHealth.restarted) := by
  unfold recordRestart
  rw [get_ok h]
  rfl

theorem apply_ok {t : HealthTable} {id : DriverId} {d : DriverHealth} (h : t.find? id = some d)
    (readings : DriverReadings) (nowNs : Nat) :
    t.apply id readings nowNs =
      .ok ((d.evaluated readings t.alerts nowNs).outcome d.status,
        t.modify id fun _ => d.evaluated readings t.alerts nowNs) := by
  unfold apply
  rw [get_ok h]
  rfl

/-- A driver that is registered is entered with the status `Unknown` and evaluated from there. -/
theorem register_entered {t t' : HealthTable} {name : String} {handle : HandleRef}
    {readings : DriverReadings} {auto : Bool} {threshold nowNs : Nat} {eval : Evaluation}
    (h : t.register name handle readings auto threshold nowNs = .ok (eval, t')) :
    ∃ d : DriverHealth, d.id = ⟨t.drivers.length + 1⟩ ∧ d.name = .ofString name ∧
      d.status = .unknown ∧ d.recovery = { auto, threshold } ∧ t.drivers.length < driverLimit ∧
      eval = (d.evaluated readings t.alerts nowNs).outcome d.status ∧
      ∀ id, t'.find? id = if id = ⟨t.drivers.length + 1⟩ then
        some (d.evaluated readings t.alerts nowNs) else t.find? id := by
  unfold register at h
  split at h
  · cases h
  · rename_i hroom
    dsimp only at h
    rw [apply_ok (by rw [find?_append, if_pos rfl])] at h
    cases h
    refine ⟨_, rfl, rfl, rfl, rfl, Nat.not_le.1 hroom, rfl, fun id => ?_⟩
    rw [find?_modify, find?_append]
    by_cases hnew : id = ⟨t.drivers.length + 1⟩
    · simp only [if_pos hnew, Option.map_some]
    · simp only [if_neg hnew]

theorem register_ok {t t' : HealthTable} {name : String} {handle : HandleRef}
    {readings : DriverReadings} {auto : Bool} {threshold nowNs : Nat} {eval : Evaluation}
    (h : t.register name handle readings auto threshold nowNs = .ok (eval, t')) :
    ∃ e : DriverHealth, e.id = ⟨t.drivers.length + 1⟩ ∧ e.name = .ofString name ∧
      e.status = .observe readings.cpuPercent readings.crashes t.alerts ∧
      e.recovery = { auto, threshold, failures := if e.status.isFailing then 1 else 0 } ∧
      eval = e.outcome .unknown ∧ t.drivers.length < driverLimit ∧
      ∀ id, t'.find? id = if id = ⟨t.drivers.length + 1⟩ then some e else t.find? id := by
  obtain ⟨d, hid, hname, hstatus, hrecovery, hroom, heval, hfind⟩ := register_entered h
  have hafter : (d.evaluated readings t.alerts nowNs).status =
      .observe readings.cpuPercent readings.crashes t.alerts := by
    unfold DriverHealth.evaluated
    rw [hstatus]
    rfl
  refine ⟨d.evaluated readings t.alerts nowNs, hid, hname, hafter, ?_, ?_, hroom, hfind⟩
  · rw [DriverHealth.evaluated, hrecovery]
  · rw [heval, hstatus]

end HealthTable

namespace System

/-- A core that accepts no calls and has no drivers. -/
def Dead (s : System) : Prop := s.core.initialized = false ∧ s.core.health.drivers = []

theorem Dead.find? {s : System} (h : s.Dead) (id : DriverId) : s.core.health.find? id = none := by
  unfold HealthTable.find?
  rw [h.2]
  split <;> rfl

/-- A system whose core has the configuration and the restart hook of another, and accepts calls if
that does. -/
structure SameStanding (s t : System) : Prop where
  config_eq : t.core.config = s.core.config
  initialized_eq : t.core.initialized = s.core.initialized
  restartHook_eq : t.core.restartHook = s.core.restartHook

theorem SameStanding.trans {s t u : System} (h₁ : s.SameStanding t) (h₂ : t.SameStanding u) :
    s.SameStanding u where
  config_eq := h₂.config_eq.trans h₁.config_eq
  initialized_eq := h₂.initialized_eq.trans h₁.initialized_eq
  restartHook_eq := h₂.restartHook_eq.trans h₁.restartHook_eq

/-- A system in which nothing has been logged since another. -/
structure SameLog (s t : System) : Prop where
  events_eq : t.core.events = s.core.events
  log_eq : t.env.log = s.env.log

/-- A system in which no restart has been attempted since another. -/
structure SameAttempts (s t : System) : Prop where
  hooks_eq : t.env.hooks = s.env.hooks
  attempted_eq : t.core.counters.recoveriesAttempted = s.core.counters.recoveriesAttempted

theorem SameAttempts.trans {s t u : System} (h₁ : s.SameAttempts t) (h₂ : t.SameAttempts u) :
    s.SameAttempts u where
  hooks_eq := h₂.hooks_eq.trans h₁.hooks_eq
  attempted_eq := h₂.attempted_eq.trans h₁.attempted_eq

theorem dead_retire (s : System) (h : s.Dead ∨ s.core.initialized = true) : s.retire.Dead := by
  unfold retire
  split
  · exact ⟨rfl, rfl⟩
  · rename_i hready
    exact h.resolve_right hready

def hookOutcome (s : System) (hook : HookRef) : RestartOutcome :=
  ((s.env.hooks[hook.index]?).getD { outcomes := [] }).next

/-- A system in which the next call of the restart hook shuts the core down. -/
def HookShutsDown (s : System) : Prop :=
  ∃ hook, s.core.restartHook = some hook ∧ (s.hookOutcome hook).shutsDown = true

/-- Whether a restart would work: restarts are left to the core, a hook is installed, and its next
call succeeds. -/
def RestartWorks (s : System) (auto : Bool) : Prop :=
  auto = true ∧ ∃ hook, s.core.restartHook = some hook ∧ (s.hookOutcome hook).failure = none

end System

namespace DriverHealth

/-- An evaluation of the readings that calls for recovery. -/
def CallsForRecovery (d : DriverHealth) (alerts : AlertThresholds) (r : DriverReadings) : Prop :=
  ∃ nowNs, ((d.evaluated r alerts nowNs).outcome d.status).recoveryDue = true

/-- What an evaluation makes of a record, when a restart would work or would not. -/
inductive Settled (alerts : AlertThresholds) (works : Prop) (d : DriverHealth)
    (r : DriverReadings) : DriverHealth → Prop
  | kept (nowNs : Nat)
      (h : ((d.evaluated r alerts nowNs).outcome d.status).recoveryDue = false) :
      Settled alerts works d r (d.evaluated r alerts nowNs)
  | restarted (nowNs : Nat)
      (h : ((d.evaluated r alerts nowNs).outcome d.status).recoveryDue = true) (hw : works) :
      Settled alerts works d r (d.evaluated r alerts nowNs).restarted
  | givenUp (nowNs laterNs : Nat) (attempted : Bool)
      (h : ((d.evaluated r alerts nowNs).outcome d.status).recoveryDue = true) (hw : ¬works) :
      Settled alerts works d r ((d.evaluated r alerts nowNs).givenUp laterNs attempted)

end DriverHealth

namespace Core

open DriverTelemetry.System

variable {s : System} {eval : Evaluation} {d : DriverHealth}

/-- Giving up stores the record and logs the change from the status that it had. -/
theorem call_giveUp (hd : s.core.health.find? eval.id = some d) (attempted : Bool)
    (reason : Option String) :
    ∃ (nowNs : Nat) (stored : System),
      stored.core.health = s.core.health.modify eval.id (·.givenUp nowNs attempted) ∧
      s.SameStanding stored ∧ s.SameLog stored ∧
      (s.call (giveUp eval attempted reason)).2 =
        ((logTransition eval.name d.status .failed reason).run stored).2 := by
  have hfailed := HealthTable.markFailed_ok hd (readClock.run s).1 attempted
  have hrun : s.call (giveUp eval attempted reason) = System.call (readClock.run s).2
      (onHealth (·.markFailed eval.id (readClock.run s).1 attempted) >>= _) := rfl
  rw [hrun, System.call_andThen_ok (System.call_onHealth_ok hfailed)]
  let stored : System :=
    { (readClock.run s).2 with
      core.health := s.core.health.modify eval.id (·.givenUp (readClock.run s).1 attempted) }
  exact ⟨_, stored, rfl, ⟨rfl, rfl, rfl⟩, ⟨rfl, rfl⟩, rfl⟩

theorem giveUp_record (hd : s.core.health.find? eval.id = some d) (attempted : Bool)
    (reason : Option String) :
    s.SameStanding (s.call (giveUp eval attempted reason)).2 ∧
      ∃ nowNs, (s.call (giveUp eval attempted reason)).2.core.health =
        s.core.health.modify eval.id (·.givenUp nowNs attempted) := by
  obtain ⟨nowNs, stored, hhealth, hsame, -, hrun⟩ := call_giveUp hd attempted reason
  rw [hrun]
  exact ⟨⟨hsame.config_eq, hsame.initialized_eq, hsame.restartHook_eq⟩, nowNs, hhealth⟩

theorem call_giveUp_dead (h : s.Dead) (attempted : Bool) (reason : Option String) :
    (s.call (giveUp eval attempted reason)).2 = (readClock.run s).2 := by
  have hfailed : s.core.health.markFailed eval.id (readClock.run s).1 attempted =
      .error .notFound := by
    unfold HealthTable.markFailed
    rw [HealthTable.get_error (h.find? _)]
    rfl
  have hrun : s.call (giveUp eval attempted reason) = System.call (readClock.run s).2
      (onHealth (·.markFailed eval.id (readClock.run s).1 attempted) >>= _) := rfl
  rw [hrun, System.call_andThen_error (System.call_onHealth_error hfailed)]

theorem call_noteRestart (hd : s.core.health.find? eval.id = some d) :
    ∃ stored : System,
      stored.core.health = s.core.health.modify eval.id DriverHealth.restarted ∧
      s.SameStanding stored ∧ s.SameLog stored ∧
      (s.call (noteRestart eval)).2 = ((emitText .recovery .core
        (restartText eval.name d.restarted.recovery.restarts)).run stored).2 := by
  unfold noteRestart
  rw [System.call_get_andThen, HealthTable.recordRestart_ok hd]
  let stored : System :=
    { s with core.health := s.core.health.modify eval.id DriverHealth.restarted }
  exact ⟨stored, rfl, ⟨rfl, rfl, rfl⟩, ⟨rfl, rfl⟩, rfl⟩

theorem noteRestart_record (hd : s.core.health.find? eval.id = some d) :
    s.SameStanding (s.call (noteRestart eval)).2 ∧
      (s.call (noteRestart eval)).2.core.health =
        s.core.health.modify eval.id DriverHealth.restarted := by
  obtain ⟨stored, hhealth, hsame, -, hrun⟩ := call_noteRestart hd
  rw [hrun]
  exact ⟨⟨hsame.config_eq, hsame.initialized_eq, hsame.restartHook_eq⟩, hhealth⟩

theorem call_noteRestart_dead (h : s.Dead) :
    (s.call (noteRestart eval)).2 =
      ((internalError "health record lost during recovery").run s).2 := by
  have hfailed : s.core.health.recordRestart eval.id = .error .notFound := by
    unfold HealthTable.recordRestart
    rw [HealthTable.get_error (h.find? _)]
    rfl
  unfold noteRestart
  rw [System.call_get_andThen, hfailed]
  rfl

/-- A call of a restart hook answers what the hook does next, and may shut the core down. -/
theorem run_callHook (s : System) (hook : HookRef) (handle : HandleRef) :
    ∃ env : Environment, env.platform = s.env.platform ∧ env.log = s.env.log ∧
      env.hooks = s.env.hooks.modify hook.index
        (fun h => { h with calls := h.calls ++ [s.env.handleName handle] }) ∧
      s.env.KeepsFleet env ∧
      (callHook hook handle).run s =
        ((s.hookOutcome hook).failure,
          if (s.hookOutcome hook).shutsDown then System.retire { s with env }
          else { s with env }) := by
  let name := s.env.handleName handle
  let noted : Environment :=
    { s.env with
      hooks := s.env.hooks.modify hook.index fun h => { h with calls := h.calls ++ [name] } }
  have hrun : (callHook hook handle).run s =
      ((do
        if (s.hookOutcome hook).cools then modify fun s => { s with env := s.env.cool name }
        if (s.hookOutcome hook).shutsDown then shutdown
        return (s.hookOutcome hook).failure : Action (Option RecoveryError)).run
          { s with env := noted }) := rfl
  rw [hrun]
  refine ⟨if (s.hookOutcome hook).cools then noted.cool name else noted, ?_, ?_, ?_, ?_, ?_⟩
  · split <;> rfl
  · split <;> rfl
  · split <;> rfl
  · split
    · exact .inr ⟨name, rfl⟩
    · exact .inl rfl
  · cases (s.hookOutcome hook).cools <;> cases (s.hookOutcome hook).shutsDown <;> rfl

def afterHook (eval : Evaluation) : Option RecoveryError → Call HealthStatus
  | none => noteRestart eval
  | some failure => giveUp eval true (some failure.message)

theorem call_recover_none (h : s.core.restartHook.filter (fun _ => eval.autoRecovery) = none) :
    s.call (recover eval) = s.call (giveUp eval false none) := by
  unfold recover
  rw [System.call_get_andThen, h]

/-- A restart is noted and logged before the hook is called. -/
theorem call_recover_some {hook : HookRef}
    (h : s.core.restartHook.filter (fun _ => eval.autoRecovery) = some hook) :
    ∃ t : System, t.core.health = s.core.health ∧ s.SameStanding t ∧ t.env.hooks = s.env.hooks ∧
      (∃ counters : LifetimeCounters,
        counters.recoveriesAttempted = s.core.counters.recoveriesAttempted + 1 ∧
        t = ((emitText .recovery .core (noticeText eval.name eval.failures)).run
          { s with core.counters := counters }).2) ∧
      s.call (recover eval) =
        System.call ((callHook hook eval.handle).run t).2
          (afterHook eval ((callHook hook eval.handle).run t).1) := by
  let counted : System :=
    { s with core.counters.recoveriesAttempted := s.core.counters.recoveriesAttempted + 1 }
  refine ⟨((emitText .recovery .core (noticeText eval.name eval.failures)).run counted).2, rfl,
    ⟨rfl, rfl, rfl⟩, rfl, ⟨_, rfl, rfl⟩, ?_⟩
  unfold recover
  rw [System.call_get_andThen, h]
  rfl

theorem afterHook_dead (h : s.Dead) (failure : Option RecoveryError) :
    (s.call (afterHook eval failure)).2.Dead := by
  cases failure with
  | none => exact call_noteRestart_dead h ▸ h
  | some failure => exact call_giveUp_dead h _ _ ▸ h

theorem afterHook_record (hd : s.core.health.find? eval.id = some d)
    (failure : Option RecoveryError) :
    s.SameStanding (s.call (afterHook eval failure)).2 ∧
      ((failure = none ∧
          (s.call (afterHook eval failure)).2.core.health =
            s.core.health.modify eval.id DriverHealth.restarted) ∨
        (failure ≠ none ∧ ∃ nowNs attempted,
          (s.call (afterHook eval failure)).2.core.health =
            s.core.health.modify eval.id (·.givenUp nowNs attempted))) := by
  cases failure with
  | none =>
    obtain ⟨hsame, hhealth⟩ := noteRestart_record hd
    exact ⟨hsame, .inl ⟨rfl, hhealth⟩⟩
  | some failure =>
    obtain ⟨hsame, nowNs, hhealth⟩ := giveUp_record hd true (some failure.message)
    exact ⟨hsame, .inr ⟨by simp, nowNs, true, hhealth⟩⟩

theorem recover_record (hready : s.core.initialized = true)
    (hd : s.core.health.find? eval.id = some d) :
    s.HookShutsDown ∧ (s.call (recover eval)).2.Dead ∨
      s.SameStanding (s.call (recover eval)).2 ∧
        ((s.RestartWorks eval.autoRecovery ∧
            (s.call (recover eval)).2.core.health =
              s.core.health.modify eval.id DriverHealth.restarted) ∨
          (¬s.RestartWorks eval.autoRecovery ∧ ∃ nowNs attempted,
            (s.call (recover eval)).2.core.health =
              s.core.health.modify eval.id (·.givenUp nowNs attempted))) := by
  cases hhook : s.core.restartHook.filter (fun _ => eval.autoRecovery) with
  | none =>
    have hworks : ¬s.RestartWorks eval.autoRecovery := by
      rintro ⟨hauto, hook, hsome, -⟩
      simp [hsome, hauto] at hhook
    obtain ⟨hsame, nowNs, hhealth⟩ := giveUp_record hd false none
    rw [call_recover_none hhook]
    exact .inr ⟨hsame, .inr ⟨hworks, nowNs, false, hhealth⟩⟩
  | some hook =>
    obtain ⟨t, hhealth, hsame, hhooks, -, hrun⟩ := call_recover_some hhook
    obtain ⟨hsome, hauto⟩ := Option.filter_eq_some_iff.1 hhook
    obtain ⟨env, -, -, -, -, hcall⟩ := run_callHook t hook eval.handle
    have houtcome : t.hookOutcome hook = s.hookOutcome hook := by
      unfold System.hookOutcome
      rw [hhooks]
    have hworks : s.RestartWorks eval.autoRecovery ↔ (s.hookOutcome hook).failure = none := by
      refine ⟨?_, fun hnone => ⟨hauto, hook, hsome, hnone⟩⟩
      rintro ⟨-, hook', hsome', hnone⟩
      rw [hsome, Option.some.injEq] at hsome'
      rwa [hsome']
    rw [hrun, hcall, houtcome, hworks]
    by_cases hshuts : (s.hookOutcome hook).shutsDown = true
    · -- the hook has taken the record away before its answer is looked at
      rw [if_pos hshuts]
      have hdead : (System.retire { t with env }).Dead :=
        System.dead_retire _ (.inr (hsame.initialized_eq.trans hready))
      exact .inl ⟨⟨hook, hsome, hshuts⟩, afterHook_dead hdead _⟩
    · rw [if_neg hshuts, ← hhealth]
      have hcalled : s.SameStanding { t with env } :=
        ⟨hsame.config_eq, hsame.initialized_eq, hsame.restartHook_eq⟩
      have hfind : t.core.health.find? eval.id = some d := by rw [hhealth, hd]
      obtain ⟨hafter, hrecord⟩ :=
        afterHook_record (s := { t with env }) hfind (s.hookOutcome hook).failure
      exact .inr ⟨hcalled.trans hafter, hrecord⟩

/-- The part of an evaluation that comes before its outcome is acted on. -/
def applyReadings (id : DriverId) (readings : DriverReadings) : Call Evaluation := do
  let now ← readClock
  let eval ← onHealth (·.apply id readings now)
  count fun s => { s with healthChecks := s.healthChecks + 1 }
  if eval.changed then logTransition eval.name eval.before eval.after none
  return eval

def actOn (eval : Evaluation) : Call HealthStatus :=
  if eval.recoveryDue then recover eval else return eval.after

theorem call_evaluateDriver (s : System) (id : DriverId) (readings : DriverReadings) :
    s.call (evaluateDriver id readings) = s.call (applyReadings id readings >>= actOn) := by
  let read := (readClock.run s).2
  let apply : HealthTable → Except TelemetryError (Evaluation × HealthTable) :=
    (·.apply id readings (readClock.run s).1)
  change read.call (onHealth apply >>= _) = read.call ((onHealth apply >>= _) >>= _)
  cases happly : apply read.core.health with
  | error e =>
    have hfailed := System.call_onHealth_error happly
    rw [System.call_andThen_error hfailed,
      System.call_andThen_error (System.call_andThen_error hfailed)]
  | ok answer =>
    obtain ⟨eval, health⟩ := answer
    have hstored := System.call_onHealth_ok happly
    rw [bind_assoc, System.call_andThen_ok hstored, System.call_andThen_ok hstored]
    cases eval.changed with
    | false => rfl
    | true => rfl

/-- Readings of a driver that is not registered are not applied and change nothing of the core. -/
theorem applyReadings_unknown {id : DriverId} (hd : s.core.health.find? id = none)
    (readings : DriverReadings) :
    ∃ env, s.call (applyReadings id readings) = (.error .notFound, { s with env }) := by
  have happly : s.core.health.apply id readings (readClock.run s).1 = .error .notFound := by
    unfold HealthTable.apply
    rw [HealthTable.get_error hd]
    rfl
  have hrun : s.call (applyReadings id readings) = System.call (readClock.run s).2
      (onHealth (·.apply id readings (readClock.run s).1) >>= _) := rfl
  rw [hrun, System.call_andThen_error (System.call_onHealth_error happly)]
  exact ⟨_, rfl⟩

theorem evaluateDriver_unknown {id : DriverId} (hd : s.core.health.find? id = none)
    (readings : DriverReadings) :
    ∃ env, s.call (evaluateDriver id readings) = (.error .notFound, { s with env }) := by
  obtain ⟨env, hfailed⟩ := applyReadings_unknown hd readings
  rw [call_evaluateDriver, System.call_andThen_error hfailed]
  exact ⟨env, rfl⟩

/-- Applying the readings of a driver stores the evaluated record and logs the change. -/
theorem call_applyReadings {id : DriverId} (hd : s.core.health.find? id = some d)
    (readings : DriverReadings) :
    ∃ (nowNs : Nat) (t : System),
      t.core.health =
        s.core.health.modify id (fun _ => d.evaluated readings s.core.health.alerts nowNs) ∧
      s.SameStanding t ∧ s.SameAttempts t ∧
      let eval := (d.evaluated readings s.core.health.alerts nowNs).outcome d.status
      (∃ stored, s.SameLog stored ∧
        t = if eval.changed then ((logTransition d.name d.status eval.after none).run stored).2
          else stored) ∧
      s.call (applyReadings id readings) = (.ok eval, t) := by
  let nowNs := (readClock.run s).1
  let eval := (d.evaluated readings s.core.health.alerts nowNs).outcome d.status
  have hrun : s.call (applyReadings id readings) = System.call (readClock.run s).2
      (onHealth (·.apply id readings nowNs) >>= _) := rfl
  rw [hrun,
    System.call_andThen_ok (System.call_onHealth_ok (HealthTable.apply_ok hd readings nowNs))]
  let stored : System :=
    { (readClock.run s).2 with
      core.health :=
        s.core.health.modify id fun _ => d.evaluated readings s.core.health.alerts nowNs
      core.counters.healthChecks := s.core.counters.healthChecks + 1 }
  cases hchanged : eval.changed with
  | false =>
    exact ⟨nowNs, stored, rfl, ⟨rfl, rfl, rfl⟩, ⟨rfl, rfl⟩,
      ⟨stored, ⟨rfl, rfl⟩, by rw [if_neg (by simp [eval, hchanged])]⟩, rfl⟩
  | true =>
    exact ⟨nowNs, ((logTransition d.name d.status eval.after none).run stored).2, rfl,
      ⟨rfl, rfl, rfl⟩, ⟨rfl, rfl⟩, ⟨stored, ⟨rfl, rfl⟩, by rw [if_pos hchanged]⟩, rfl⟩

/-- An evaluation of a driver settles its record, unless the restart hook shuts the core down. -/
theorem evaluateDriver_record (hready : s.core.initialized = true) {id : DriverId}
    (hd : s.core.health.find? id = some d) (hid : d.id = id) (readings : DriverReadings) :
    d.CallsForRecovery s.core.health.alerts readings ∧ s.HookShutsDown ∧
        (s.call (evaluateDriver id readings)).2.Dead ∨
      s.SameStanding (s.call (evaluateDriver id readings)).2 ∧
        ∃ d', d.Settled s.core.health.alerts (s.RestartWorks d.recovery.auto) readings d' ∧
          (s.call (evaluateDriver id readings)).2.core.health =
            s.core.health.modify id fun _ => d' := by
  obtain ⟨nowNs, t, hhealth, hsame, hattempts, -, happlied⟩ := call_applyReadings hd readings
  have hhooks := hattempts.hooks_eq
  rw [call_evaluateDriver, System.call_andThen_ok happlied, actOn]
  cases hdue : ((d.evaluated readings s.core.health.alerts nowNs).outcome d.status).recoveryDue with
  | false =>
    rw [if_neg Bool.false_ne_true]
    exact .inr ⟨hsame, _, .kept nowNs hdue, hhealth⟩
  | true =>
    rw [if_pos rfl]
    have hevalId :
        ((d.evaluated readings s.core.health.alerts nowNs).outcome d.status).id = id := hid
    have hfind : t.core.health.find?
        ((d.evaluated readings s.core.health.alerts nowNs).outcome d.status).id =
          some (d.evaluated readings s.core.health.alerts nowNs) := by
      rw [hevalId, hhealth, HealthTable.find?_modify_of_find? hd]
    obtain ⟨hshuts, hdead⟩ | ⟨hsame', hrecord⟩ :=
      recover_record (hsame.initialized_eq.trans hready) hfind
    · refine .inl ⟨⟨nowNs, hdue⟩, ?_, hdead⟩
      unfold System.HookShutsDown System.hookOutcome at hshuts
      rwa [hsame.restartHook_eq, hhooks] at hshuts
    · refine .inr ⟨hsame.trans hsame', ?_⟩
      have hworks : t.RestartWorks d.recovery.auto ↔ s.RestartWorks d.recovery.auto := by
        unfold System.RestartWorks System.hookOutcome
        rw [hsame.restartHook_eq, hhooks]
      obtain ⟨hw, hrestarted⟩ | ⟨hw, laterNs, attempted, hgaveUp⟩ := hrecord
      · refine ⟨_, .restarted nowNs hdue (hworks.1 hw), ?_⟩
        rw [hrestarted, hevalId, hhealth, HealthTable.modify_modify]
        rfl
      · refine ⟨_, .givenUp nowNs laterNs attempted hdue (fun h => hw (hworks.2 h)), ?_⟩
        rw [hgaveUp, hevalId, hhealth, HealthTable.modify_modify]
        rfl

/-- What registering a driver stores and logs before it acts on the outcome of the first
evaluation. -/
structure Enrols (s : System) (handle : HandleRef) (e : DriverHealth) (t : System) : Prop
    extends s.SameStanding t where
  ready : s.core.initialized = true
  room : s.core.health.drivers.length < HealthTable.driverLimit
  id_eq : e.id = ⟨s.core.health.drivers.length + 1⟩
  name_eq : e.name = .ofString (s.env.handleName handle)
  threshold_eq : e.recovery.threshold = s.core.config.recoveryThreshold.toNat
  find?_eq : ∀ id, t.core.health.find? id =
    if id = ⟨s.core.health.drivers.length + 1⟩ then some e else s.core.health.find? id
  logged : ∃ stored, s.SameLog stored ∧
    t = ((emitText .info .core (registrationText e.name e.id e.status)).run stored).2

/-- The part of a registration that comes before the outcome of the first evaluation is acted on. -/
def enrol (handle : HandleRef) : Call Evaluation := do
  ensureReady
  let s ← get
  let config := s.core.config
  let name := s.env.handleName handle
  let readings ← readHandle handle
  let now ← readClock
  let eval ← onHealth
    (·.register name handle readings config.autoRecovery config.recoveryThreshold.toNat now)
  emitText .info .core (registrationText eval.name eval.id eval.after)
  return eval

theorem call_registerDriver_enrol (s : System) (handle : HandleRef) :
    s.call (registerDriver handle) =
      s.call (enrol handle >>= fun eval => actOn eval >>= fun _ => return eval.id) := by
  cases hready : s.core.initialized with
  | false =>
    change s.call (ensureReady >>= _) = s.call ((ensureReady >>= _) >>= _)
    rw [bind_assoc, System.call_unready hready, System.call_unready hready]
  | true =>
    let register : HealthTable → Except TelemetryError (Evaluation × HealthTable) :=
      (·.register (s.env.handleName handle) handle (s.env.readHandle handle)
        s.core.config.autoRecovery s.core.config.recoveryThreshold.toNat (readClock.run s).1)
    let read := (readClock.run s).2
    change s.call (ensureReady >>= fun _ => _) = s.call ((ensureReady >>= fun _ => _) >>= _)
    rw [bind_assoc, System.call_ready hready, System.call_ready hready]
    change read.call (onHealth register >>= _) = read.call ((onHealth register >>= _) >>= _)
    cases hregister : register read.core.health with
    | error e =>
      have hfailed := System.call_onHealth_error hregister
      rw [System.call_andThen_error hfailed,
        System.call_andThen_error (System.call_andThen_error hfailed)]
    | ok answer =>
      obtain ⟨eval, health⟩ := answer
      have hstored := System.call_onHealth_ok hregister
      let stored : System := { read with core.health := health }
      have hlogged : stored.call (do
            emitText .info .core (registrationText eval.name eval.id eval.after)
            return eval : Call Evaluation) =
          (.ok eval, ((emitText .info .core
            (registrationText eval.name eval.id eval.after)).run stored).2) := rfl
      rw [bind_assoc, System.call_andThen_ok hstored, System.call_andThen_ok hstored,
        System.call_andThen_ok hlogged, actOn]
      cases eval.recoveryDue with
      | false => rfl
      | true => rfl

/-- A driver is enrolled with the outcome of its first evaluation, unless that fails and changes
nothing of the core. -/
theorem call_enrol (s : System) (handle : HandleRef) :
    (∃ error env, s.SameAttempts { s with env } ∧
        s.call (enrol handle) = (.error error, { s with env })) ∨
      ∃ (e : DriverHealth) (t : System), Enrols s handle e t ∧ s.SameAttempts t ∧
        e.status = .observe (s.env.readHandle handle).cpuPercent (s.env.readHandle handle).crashes
          s.core.health.alerts ∧
        e.recovery =
          { auto := s.core.config.autoRecovery
            threshold := s.core.config.recoveryThreshold.toNat
            failures := if e.status.isFailing then 1 else 0 } ∧
        s.call (enrol handle) = (.ok (e.outcome .unknown), t) := by
  cases hready : s.core.initialized with
  | false =>
    have hrun : s.call (enrol handle) = s.call (ensureReady >>= _) := rfl
    rw [hrun, System.call_unready hready]
    exact .inl ⟨_, s.env, ⟨rfl, rfl⟩, rfl⟩
  | true =>
    let register : HealthTable → Except TelemetryError (Evaluation × HealthTable) :=
      (·.register (s.env.handleName handle) handle (s.env.readHandle handle)
        s.core.config.autoRecovery s.core.config.recoveryThreshold.toNat (readClock.run s).1)
    let read := (readClock.run s).2
    have hrun : s.call (enrol handle) = s.call (ensureReady >>= fun _ => _) := rfl
    rw [hrun, System.call_ready hready]
    change (∃ error env, s.SameAttempts { s with env } ∧
        read.call (onHealth register >>= _) = (.error error, { s with env })) ∨
      ∃ e t, _ ∧ _ ∧ _ ∧ _ ∧ read.call (onHealth register >>= _) = _
    cases hregister : register read.core.health with
    | error e =>
      rw [System.call_andThen_error (System.call_onHealth_error hregister)]
      exact .inl ⟨_, read.env, ⟨rfl, rfl⟩, rfl⟩
    | ok answer =>
      obtain ⟨eval, health⟩ := answer
      rw [System.call_andThen_ok (System.call_onHealth_ok hregister)]
      obtain ⟨e, hid, hname, hstatus, hrecovery, rfl, hroom, hfind⟩ :=
        HealthTable.register_ok hregister
      let stored : System := { read with core.health := health }
      let logged := ((emitText .info .core (registrationText e.name e.id e.status)).run stored).2
      have henrols : Enrols s handle e logged :=
        { config_eq := rfl, initialized_eq := rfl, restartHook_eq := rfl
          ready := hready, room := hroom, id_eq := hid, name_eq := hname
          threshold_eq := by rw [hrecovery]
          find?_eq := hfind, logged := ⟨stored, ⟨rfl, rfl⟩, rfl⟩ }
      exact .inr ⟨e, logged, henrols, ⟨rfl, rfl⟩, hstatus, hrecovery, rfl⟩

/-- Registering a driver fails and changes nothing about drivers, or stores a new record and acts on
the outcome of its evaluation. -/
theorem call_registerDriver (s : System) (handle : HandleRef) :
    ((∃ error, (s.call (registerDriver handle)).1 = .error error) ∧
      (s.call (registerDriver handle)).2.core = s.core) ∨
      ∃ (e : DriverHealth) (t : System), Enrols s handle e t ∧
        (∀ id, (s.call (registerDriver handle)).1 = .ok id → id = e.id) ∧
        (s.call (registerDriver handle)).2 =
          if (e.outcome .unknown).recoveryDue then (t.call (recover (e.outcome .unknown))).2
          else t := by
  rw [call_registerDriver_enrol]
  obtain ⟨error, env, -, hfailed⟩ | ⟨e, t, henrols, -, -, -, henrolled⟩ := call_enrol s handle
  · rw [System.call_andThen_error hfailed]
    exact .inl ⟨⟨_, rfl⟩, rfl⟩
  · rw [System.call_andThen_ok henrolled]
    refine .inr ⟨e, t, henrols, fun id hid => ?_, ?_⟩
    · obtain ⟨outcome, u, hacted⟩ : ∃ outcome u,
          t.call (actOn (e.outcome .unknown)) = (outcome, u) := ⟨_, _, rfl⟩
      cases outcome with
      | ok status =>
        rw [System.call_andThen_ok hacted] at hid
        cases hid
        rfl
      | error error =>
        rw [System.call_andThen_error hacted] at hid
        cases hid
    · rw [System.call_andThen_pure, actOn]
      split
      · rfl
      · rfl

/-- Registering a driver changes nothing about drivers or adds one under the next number, with the
threshold of the configuration, unless the restart hook shuts the core down. -/
theorem registerDriver_record (s : System) (handle : HandleRef) :
    (s.call (registerDriver handle)).2.core = s.core ∨
      (s.call (registerDriver handle)).2.Dead ∨
      s.core.initialized = true ∧ s.SameStanding (s.call (registerDriver handle)).2 ∧
      ∃ e : DriverHealth,
        e.id = ⟨s.core.health.drivers.length + 1⟩ ∧
        e.recovery.threshold = s.core.config.recoveryThreshold.toNat ∧
        ∀ id, (s.call (registerDriver handle)).2.core.health.find? id =
          if id = ⟨s.core.health.drivers.length + 1⟩ then some e else s.core.health.find? id := by
  obtain ⟨-, hcore⟩ | ⟨e, t, henrols, -, hfinal⟩ := call_registerDriver s handle
  · exact .inl hcore
  · obtain ⟨hsame, hready, -, hid, -, hthreshold, hfind, -⟩ := henrols
    rw [hfinal]
    right
    by_cases hdue : (e.outcome .unknown).recoveryDue = true
    · rw [if_pos hdue]
      have hnew : t.core.health.find? (e.outcome .unknown).id = some e := by
        rw [show (e.outcome .unknown).id = _ from hid, hfind, if_pos rfl]
      have hother : ∀ (f : DriverHealth → DriverHealth) (id : DriverId),
          (t.core.health.modify (e.outcome .unknown).id f).find? id =
            if id = ⟨s.core.health.drivers.length + 1⟩ then some (f e)
            else s.core.health.find? id := by
        intro f id
        rw [show (e.outcome .unknown).id = _ from hid, HealthTable.find?_modify, hfind]
        split <;> rfl
      obtain ⟨-, hdead⟩ | ⟨hsame', hrecord⟩ :=
        recover_record (hsame.initialized_eq.trans hready) hnew
      · exact .inl hdead
      · refine .inr ⟨hready, hsame.trans hsame', ?_⟩
        obtain ⟨-, hrestarted⟩ | ⟨-, nowNs, attempted, hgaveUp⟩ := hrecord
        · refine ⟨e.restarted, hid, hthreshold, fun id => ?_⟩
          rw [hrestarted, hother]
        · refine ⟨e.givenUp nowNs attempted, hid, hthreshold, fun id => ?_⟩
          rw [hgaveUp, hother]
    · rw [if_neg hdue]
      exact .inr ⟨hready, hsame, e, hid, hthreshold, hfind⟩

end Core

end DriverTelemetry
