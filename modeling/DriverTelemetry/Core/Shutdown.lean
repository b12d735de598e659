import DriverTelemetry.Core.Basic

/-!
# Shutting down

A core that is shut down stops accepting calls and then gives back everything it holds, in the
steps of `System.releaseSteps`. Shutting down again does nothing.
-/

namespace DriverTelemetry

namespace System

def stopCollectors (s : System) : System := { s with core.collectors := [] }

def releaseRegistry (s : System) : System := { s with core.registry := s.core.registry.release }

def releaseEvents (s : System) : System := { s with core.events := s.core.events.release }

def releaseHealth (s : System) : System := { s with core.health := s.core.health.release }

def releaseTracker (s : System) : System := { s with core.tracker := s.core.tracker.release }

def forgetHooks (s : System) : System :=
  { s with core.predefined := {}, core.restartHook := none, core.analyticsHook := none }

def returnMemory (s : System) : System :=
  { s with env.platform := s.env.platform.release s.core.reservedBytes }

/-- What a shutdown does after the core has stopped accepting calls, in order. -/
def releaseSteps : List (System → System) :=
  [stopCollectors, releaseRegistry, releaseEvents, releaseHealth, releaseTracker, forgetHooks,
   returnMemory]

def retire (s : System) : System :=
  if s.core.initialized then
    releaseSteps.foldl (fun s step => step s) { s with core.initialized := false }
  else s

end System

namespace Core

def shutdown : Action Unit := modify System.retire

/-- Reads the memory sampler. The reading may be set to shut down a core: the calling one at once,
another one after the call. -/
def readMemoryUsage : Action Nat := do
  let s ← get
  match s.env.memoryTrap with
  | none => pure ()
  | some target =>
    set { s with env.memoryTrap := none }
    if target = s.core.number then shutdown
    else modify fun s => { s with env.condemned := some target }
  return s.env.platform.memoryBytes

end Core

end DriverTelemetry
