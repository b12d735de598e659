import DriverTelemetry.Error

/-!
# Table capacities

The registry, the event ring and the allocation tracker are tables with a fixed number of slots,
allocated when they are created.
-/

namespace DriverTelemetry

namespace Table

def largestBytes : Nat := 9223372036854775807

/-- Refuses a table without slots, and one whose bytes exceed any address space. -/
def checkCapacity (what : String) (slots bytesPerSlot : Nat) : Except TelemetryError Unit :=
  if slots = 0 then .error (.invalidParam what)
  else if largestBytes < slots * bytesPerSlot then .error .allocationFailed
  else .ok ()

end Table

end DriverTelemetry
