/-!
# Platform errors

What a platform service can refuse. Only memory reservations and thread creation fail.
-/

namespace DriverTelemetry

/-- Why a platform service refused. -/
inductive PlatformError where
  | outOfMemory (requested : Nat)
  | threadSpawnFailed
  | unsupported (service : String)
  deriving DecidableEq

namespace PlatformError

def causeName : PlatformError → String
  | outOfMemory _ => "OutOfMemory"
  | threadSpawnFailed => "ThreadSpawnFailed"
  | unsupported _ => "Unsupported"

def message : PlatformError → String
  | outOfMemory requested => s!"out of memory: {requested} bytes requested"
  | threadSpawnFailed => "thread spawn failed"
  | unsupported service => s!"unsupported platform service: {service}"

end PlatformError

end DriverTelemetry
