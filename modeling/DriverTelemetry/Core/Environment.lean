import DriverTelemetry.Driver
import DriverTelemetry.Event.Severity
import DriverTelemetry.Metric.Basic
import DriverTelemetry.Platform.Simulated

/-!
# Environment

Everything outside a core that a call on it can read or change: the platform, the allocator of its
tables, the driver handles, the restart hooks of the driver framework, the listeners to analytics,
and the developer log that events are copied to.
-/

namespace DriverTelemetry

/-- Why a restart failed. -/
inductive RecoveryError where
  | probeFailed (code : Int)
  | deviceGone
  | refused
  deriving DecidableEq

def RecoveryError.message : RecoveryError → String
  | probeFailed code => s!"probe failed with code {code}"
  | deviceGone => "device no longer present"
  | refused => "restart refused"

/-- What a restart hook does in one call. -/
structure RestartOutcome where
  shutsDown : Bool := false
  /-- Whether the driver comes back idle: no CPU usage and no crashes. -/
  cools : Bool := false
  failure : Option RecoveryError := none
  deriving DecidableEq

/-- A restart hook: the outcomes of its calls, the last of which repeats, and the names of the
drivers it has been called for. -/
structure RestartHook where
  outcomes : List RestartOutcome
  calls : List String := []
  deriving DecidableEq

def RestartHook.next (h : RestartHook) : RestartOutcome :=
  (h.outcomes[min h.calls.length (h.outcomes.length - 1)]?).getD {}

/-- The place of a restart hook among those of an environment. -/
structure HookRef where
  index : Nat
  deriving DecidableEq

/-- What a listener to analytics has been told. -/
structure AnalyticsRecord where
  trends : List MetricId := []
  predictions : List MetricId := []
  deriving DecidableEq

/-- The listener of a core: one that ignores everything, or one that records. -/
inductive AnalyticsHook where
  | silent
  /-- Records at a place, counted from 0, of the environment. -/
  | recording (index : Nat)
  deriving DecidableEq

/-- The surroundings of a core. -/
structure Environment where
  platform : SimulatedPlatform := {}
  /-- How many more tables the allocator grants; without a number it grants every one. -/
  tablesLeft : Option Nat := none
  fleet : List DriverHandle := []
  hooks : List RestartHook := []
  analytics : List AnalyticsRecord := []
  log : List (LogLevel × String) := []
  /-- A core that the next reading of the memory sampler shuts down. -/
  memoryTrap : Option Nat := none
  /-- A core other than the calling one that such a reading has condemned. -/
  condemned : Option Nat := none

namespace Environment

def readHandle (e : Environment) (ref : HandleRef) : DriverReadings :=
  ((e.fleet[ref.index]?).getD default).read

def handleName (e : Environment) (ref : HandleRef) : String :=
  ((e.fleet[ref.index]?).getD default).name

def addHandle (e : Environment) (h : DriverHandle) : HandleRef × Environment :=
  (⟨e.fleet.length⟩, { e with fleet := e.fleet ++ [h] })

def setReadings (e : Environment) (ref : HandleRef) (r : DriverReadings) : Environment :=
  { e with fleet := e.fleet.modify ref.index fun h => { h with readings := r } }

def cool (e : Environment) (name : String) : Environment :=
  { e with
    fleet := e.fleet.map fun h =>
      if h.name = name then { h with readings := { h.readings with cpuPercent := 0, crashes := 0 } }
      else h }

def addHook (e : Environment) (outcomes : List RestartOutcome) : HookRef × Environment :=
  (⟨e.hooks.length⟩, { e with hooks := e.hooks ++ [{ outcomes }] })

def addListener (e : Environment) : Nat × Environment :=
  (e.analytics.length, { e with analytics := e.analytics ++ [{}] })

def tellTrends (e : Environment) (hook : Option AnalyticsHook) (ids : List MetricId) :
    Environment :=
  match hook with
  | some (.recording i) =>
    { e with analytics := e.analytics.modify i fun r => { r with trends := r.trends ++ ids } }
  | _ => e

def tellPredictions (e : Environment) (hook : Option AnalyticsHook) (ids : List MetricId) :
    Environment :=
  match hook with
  | some (.recording i) =>
    { e with
      analytics := e.analytics.modify i fun r => { r with predictions := r.predictions ++ ids } }
  | _ => e

@[simp] theorem platform_tellTrends (e : Environment) (hook : Option AnalyticsHook)
    (ids : List MetricId) : (e.tellTrends hook ids).platform = e.platform := by
  unfold tellTrends
  split <;> rfl

@[simp] theorem platform_tellPredictions (e : Environment) (hook : Option AnalyticsHook)
    (ids : List MetricId) : (e.tellPredictions hook ids).platform = e.platform := by
  unfold tellPredictions
  split <;> rfl

@[simp] theorem fleet_tellTrends (e : Environment) (hook : Option AnalyticsHook)
    (ids : List MetricId) : (e.tellTrends hook ids).fleet = e.fleet := by
  unfold tellTrends
  split <;> rfl

@[simp] theorem fleet_tellPredictions (e : Environment) (hook : Option AnalyticsHook)
    (ids : List MetricId) : (e.tellPredictions hook ids).fleet = e.fleet := by
  unfold tellPredictions
  split <;> rfl

/-- What a listener has been told since it was last asked. -/
def takeAnalytics (e : Environment) (index : Nat) : AnalyticsRecord × Environment :=
  ((e.analytics[index]?).getD {}, { e with analytics := e.analytics.set index {} })

/-- The developer log since it was last taken. -/
def takeLog (e : Environment) : List (LogLevel × String) × Environment :=
  (e.log, { e with log := [] })

end Environment

end DriverTelemetry
