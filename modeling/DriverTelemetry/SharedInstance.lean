import DriverTelemetry.Host

/-!
# Shared instance

One core can be installed for producers that are not handed one. Calls without a handle go to the
installed core and fail while there is none.
-/

namespace DriverTelemetry

/-- A host with the core that is installed for everyone. -/
structure SharedInstance where
  host : Host := {}
  installed : Option Nat := none

namespace SharedInstance

/-- Installs a core; answers its place. While a core is installed, that one is answered and the
configuration is ignored. -/
def init (g : SharedInstance) (config : Config) : Except TelemetryError Nat × SharedInstance :=
  match g.installed with
  | some place => (.ok place, g)
  | none =>
    match g.host.start config with
    | (.ok place, host) => (.ok place, { host, installed := some place })
    | (.error e, host) => (.error e, { g with host })

def shutdown (g : SharedInstance) : SharedInstance :=
  match g.installed with
  | some place => { host := g.host.shutdown place, installed := none }
  | none => g

def isInitialized (g : SharedInstance) : Bool := g.installed.isSome

def call {α : Type} (g : SharedInstance) (c : Call α) : Except TelemetryError α × SharedInstance :=
  match g.installed with
  | none => (.error .notInitialized, g)
  | some place =>
    let (r, host) := g.host.call place c
    (r, { g with host })

def shutdownHandle (g : SharedInstance) (place : Nat) : SharedInstance :=
  { g with host := g.host.shutdown place }

def core? (g : SharedInstance) : Option Core := g.installed.bind fun place => g.host.cores[place]?

/-- The predefined metrics of the installed core; all zero without one. -/
def predefined (g : SharedInstance) : PredefinedMetrics :=
  (g.core?.map (·.predefined)).getD {}

end SharedInstance

end DriverTelemetry
