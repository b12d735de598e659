import DriverTelemetry.Core.Background
import DriverTelemetry.Core.Snapshot
import DriverTelemetry.Core.Start

/-!
# Cores that share an environment

A host runs any number of cores in one environment. A core is addressed by its place among those
started; it keeps the place after it has been shut down.
-/

namespace DriverTelemetry

/-- An environment with the cores that have been started in it. -/
structure Host where
  env : Environment := {}
  cores : List Core := []

/-- A condition that background collectors can bring about. -/
inductive AwaitedCondition where
  | level (id : MetricId) (level : Int)
  | driverStatus (id : DriverId) (status : HealthStatus)
  | statistic (field : String) (least : Nat)

def AwaitedCondition.holds (c : Core) : AwaitedCondition → Bool
  | level id v => c.initialized && ((c.registry.find? id).bind (·.value.level?)) == some v
  | driverStatus id s => c.initialized && ((c.health.find? id).map (·.status)) == some s
  | statistic field least =>
    match c.snapshot.fields.lookup field with
    | some n => decide (least ≤ n)
    | none => false

namespace Host

/-- Starts a core; answers its place. -/
def start (h : Host) (config : Config) : Except TelemetryError Nat × Host :=
  match Core.start h.cores.length config h.env with
  | (.ok core, env) => (.ok h.cores.length, { env, cores := h.cores ++ [core] })
  | (.error e, env) => (.error e, { h with env })

/-- Runs an action on the core at a place, if there is one. -/
def act? {α : Type} (h : Host) (place : Nat) (a : Action α) : Option α × Host :=
  match h.cores[place]? with
  | none => (none, h)
  | some core =>
    let (x, s) := a.run { env := h.env, core }
    (some x, { env := s.env, cores := h.cores.set place s.core })

def shutdown (h : Host) (place : Nat) : Host := (h.act? place Core.shutdown).2

def executeCondemned (h : Host) : Host :=
  match h.env.condemned with
  | none => h
  | some place => shutdown { h with env.condemned := none } place

/-- Runs an action on the core at a place, with what follows from it for other cores. -/
def act {α : Type} (h : Host) (place : Nat) (a : Action α) : Option α × Host :=
  let (x, h) := h.act? place a
  (x, h.executeCondemned)

/-- Runs a call on the core at a place. A place without a core accepts no calls. -/
def call {α : Type} (h : Host) (place : Nat) (c : Call α) : Except TelemetryError α × Host :=
  match h.act place c.run with
  | (some r, h) => (r, h)
  | (none, h) => (.error .notInitialized, h)

def registerDriver (h : Host) (place : Nat) (handle : DriverHandle) :
    Except TelemetryError DriverId × Host :=
  let (ref, env) := h.env.addHandle handle
  call { h with env } place (Core.registerDriver ref)

/-- Installs a new restart hook on the core at a place; answers where its calls are noted. -/
def installRestartHook (h : Host) (place : Nat) (outcomes : List RestartOutcome) :
    HookRef × Host :=
  let (ref, env) := h.env.addHook outcomes
  (ref, (act { h with env } place (Core.setRestartHook ref)).2)

/-- Installs a new recording listener on the core at a place; answers where it records. -/
def installListener (h : Host) (place : Nat) : Nat × Host :=
  let (index, env) := h.env.addListener
  (index, (act { h with env } place (Core.setAnalyticsHook (.recording index))).2)

/-- Runs calls on the core at a place, one after the other; one that fails does not keep the rest
from being tried. -/
def callEach {α : Type} (h : Host) (place : Nat) :
    List (Call α) → List (Except TelemetryError α) × Host
  | [] => ([], h)
  | c :: rest =>
    let (outcome, h) := h.call place c
    let (outcomes, h) := h.callEach place rest
    (outcome :: outcomes, h)

def shutdownAll (h : Host) : Host :=
  (List.range h.cores.length).foldl shutdown h

/-- Lets one slice of time pass for the collectors of every core. -/
def backgroundSlice (h : Host) : Host :=
  (List.range h.cores.length).foldl (fun h place => (h.act place Core.backgroundSlice).2) h

def satisfies (h : Host) (place : Nat) (condition : AwaitedCondition) : Bool :=
  match h.cores[place]? with
  | some core => condition.holds core
  | none => false

def patience : Nat := 5000

/-- Lets time pass, slice by slice, until a condition holds; answers whether it does in the end. -/
def awaitWithin (place : Nat) (condition : AwaitedCondition) : (slices : Nat) → Host → Bool × Host
  | 0, h => (h.satisfies place condition, h)
  | n + 1, h =>
    if h.satisfies place condition then (true, h)
    else awaitWithin place condition n h.backgroundSlice

def await (h : Host) (place : Nat) (condition : AwaitedCondition) : Bool × Host :=
  awaitWithin place condition patience h

end Host

end DriverTelemetry
