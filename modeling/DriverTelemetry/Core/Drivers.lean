import DriverTelemetry.Core.Events
import DriverTelemetry.Core.Shutdown

/-!
# Driver health calls

Drivers are evaluated on readings taken without touching the table. An evaluation that reaches the
recovery threshold calls the restart hook, or gives up on the driver if there is none or automatic
recovery is off; every change of status is logged.
-/

namespace DriverTelemetry

namespace Core

def readHandle (ref : HandleRef) : Action DriverReadings := do
  return (← get).env.readHandle ref

/-- The message about a change of status. -/
def transitionText (name : Name) (before after : HealthStatus) : String :=
  s!"Driver '{name.text}' health changed from {before.name} to {after.name}"

/-- The message about a new driver, with the status that its first evaluation has given it. -/
def registrationText (name : Name) (id : DriverId) (status : HealthStatus) : String :=
  s!"Registered driver '{name.text}' ({id.text}) with status {status.name}"

/-- The message that announces a restart. -/
def noticeText (name : Name) (failures : Nat) : String :=
  s!"Initiating auto-recovery for driver '{name.text}' after {failures} consecutive failures"

/-- The message about a restart that has worked. -/
def restartText (name : Name) (restarts : Nat) : String :=
  s!"Driver '{name.text}' restarted (restart #{restarts})"

/-- Logs a change of status, with the reason if there is one. -/
def logTransition (name : Name) (before after : HealthStatus) (reason : Option String) :
    Action Unit := do
  let severity : Severity := if after.isFailing then .critical else .warning
  let _ ← emit severity .core fun p =>
    let p := p.setMessage (transitionText name before after)
    match reason with
    | some reason => p.setDetails reason
    | none => p

/-- Calls a restart hook for a driver; answers why the restart failed, if it did. -/
def callHook (hook : HookRef) (handle : HandleRef) : Action (Option RecoveryError) := do
  let s ← get
  let name := s.env.handleName handle
  let outcome := ((s.env.hooks[hook.index]?).getD { outcomes := [] }).next
  set
    { s with
      env.hooks := s.env.hooks.modify hook.index fun h => { h with calls := h.calls ++ [name] } }
  if outcome.cools then modify fun s => { s with env := s.env.cool name }
  if outcome.shutsDown then shutdown
  return outcome.failure

def giveUp (eval : Evaluation) (attemptedRestart : Bool) (reason : Option String) :
    Call HealthStatus := do
  let now ← readClock
  let before ← onHealth (·.markFailed eval.id now attemptedRestart)
  logTransition eval.name before .failed reason
  return .failed

def noteRestart (eval : Evaluation) : Call HealthStatus := do
  match (← get).core.health.recordRestart eval.id with
  | .ok (restarts, health) =>
    change fun c => { c with health }
    emitText .recovery .core (restartText eval.name restarts)
    return eval.after
  | .error _ => throw (← internalError "health record lost during recovery")

def recover (eval : Evaluation) : Call HealthStatus := do
  match (← get).core.restartHook.filter fun _ => eval.autoRecovery with
  | none => giveUp eval false none
  | some hook =>
    count fun s => { s with recoveriesAttempted := s.recoveriesAttempted + 1 }
    emitText .recovery .core (noticeText eval.name eval.failures)
    match ← callHook hook eval.handle with
    | none => noteRestart eval
    | some failure => giveUp eval true (some failure.message)

def evaluateDriver (id : DriverId) (readings : DriverReadings) : Call HealthStatus := do
  let now ← readClock
  let eval ← onHealth (·.apply id readings now)
  count fun s => { s with healthChecks := s.healthChecks + 1 }
  if eval.changed then logTransition eval.name eval.before eval.after none
  if eval.recoveryDue then recover eval else return eval.after

def registerDriver (handle : HandleRef) : Call DriverId := do
  ensureReady
  let s ← get
  let config := s.core.config
  let name := s.env.handleName handle
  let readings ← readHandle handle
  let now ← readClock
  let eval ← onHealth
    (·.register name handle readings config.autoRecovery config.recoveryThreshold.toNat now)
  emitText .info .core (registrationText eval.name eval.id eval.after)
  if eval.recoveryDue then
    let _ ← recover eval
  return eval.id

def updateDriverHealth (id : DriverId) : Call HealthStatus := do
  ensureReady
  let d ← readHealth (·.get id)
  evaluateDriver id (← readHandle d.handle)

/-- Evaluates every driver; answers how many there are. -/
def checkAllDriverHealth : Call Nat := do
  ensureReady
  let handles := (← get).core.health.handles
  handles.forM fun (id, handle) => do
    let _ ← evaluateDriver id (← readHandle handle)
  return handles.length

def driverHealth (id : DriverId) : Call HealthStatus := do
  ensureReady
  return (← readHealth (·.get id)).status

def driverHealthRecord (id : DriverId) : Call DriverHealth := do
  ensureReady
  readHealth (·.get id)

def setAutoRecovery (id : DriverId) (auto : Bool) (threshold : Nat) : Call Unit := do
  ensureReady
  onHealth fun t => (t.setAutoRecovery id auto threshold).map ((), ·)

def setRestartHook (hook : HookRef) : Action Unit :=
  change fun c => { c with restartHook := some hook }

end Core

end DriverTelemetry
