import DriverTelemetry.Platform.Basic
import DriverTelemetry.Word

/-!
# Hosted platform

What can be said of a platform on a real machine whatever the machine does: memory is granted up to
a budget fixed at the start, threads are kept in a table, stacks are not walked, the processor is
always number 0, and the samplers keep their promises.
-/

namespace DriverTelemetry

/-- A promise about values that only the machine knows. -/
inductive SamplerPromise where
  | clockMonotonic
  | wallSane
  | cpuBounded
  | memoryPageMultiple
  /-- The number of devices does not change by being asked for. -/
  | devicesStable
  deriving DecidableEq

namespace SamplerPromise

def all : List SamplerPromise :=
  [clockMonotonic, wallSane, cpuBounded, memoryPageMultiple, devicesStable]

def name : SamplerPromise → String
  | clockMonotonic => "clock_monotonic"
  | wallSane => "wall_sane"
  | cpuBounded => "cpu_bounded"
  | memoryPageMultiple => "memory_page_multiple"
  | devicesStable => "devices_stable"

def ofName? (name : String) : Option SamplerPromise := all.find? (·.name == name)

end SamplerPromise

/-- A platform on a real machine. -/
structure HostedPlatform where
  budget : Nat := Word.largest
  reserved : Nat := 0
  threads : ThreadTable := {}
  deriving DecidableEq

namespace HostedPlatform

/-- The sum of two byte counts, unless it exceeds the largest word. -/
def checkedSum? (a b : Nat) : Option Nat := if a + b ≤ Word.largest then some (a + b) else none

/-- Reserves memory, unless the new total exceeds the budget. -/
def reserve (p : HostedPlatform) (bytes : Nat) : Except PlatformError HostedPlatform :=
  match (checkedSum? p.reserved bytes).filter (decide <| · ≤ p.budget) with
  | some total => .ok { p with reserved := total }
  | none => .error (.outOfMemory bytes)

def release (p : HostedPlatform) (bytes : Nat) : HostedPlatform :=
  { p with reserved := p.reserved - bytes }

def captureStack (_ : HostedPlatform) (_room : Nat) : List Nat := []

def cpuId (_ : HostedPlatform) : Nat := 0

def keeps (_ : HostedPlatform) : SamplerPromise → Bool
  | .clockMonotonic | .wallSane | .cpuBounded | .memoryPageMultiple | .devicesStable => true

def debugText (p : HostedPlatform) : String :=
  s!"HostPlatform \x7b reserved: {p.reserved}, budget: {p.budget} \x7d"

instance : Platform HostedPlatform where
  reserve := reserve
  release := release
  reserved := reserved
  captureStack := captureStack
  cpuId := cpuId
  threads := threads
  setThreads p threads := { p with threads }
  debugText := debugText

end HostedPlatform

end DriverTelemetry
