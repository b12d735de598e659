import DriverTelemetry.Driver
import DriverTelemetry.Table
import DriverTelemetry.Word

/-!
# Allocation tracker

A table of allocations with a fixed number of slots. A freed record stays in its slot until the
table is full; then the oldest freed record gives its slot to a new allocation, and only a table
full of live records refuses one. Freeing an address frees its newest live record.
-/

namespace DriverTelemetry

/-- One allocation. -/
structure AllocationRecord where
  address : Nat
  size : Nat
  allocatedNs : Nat
  file : String
  line : Nat
  thread : Nat
  owner : Option DriverId := none
  freed : Bool := false
  leakReported : Bool := false
  deriving DecidableEq

/-- An allocation that a scan reports as leaked. -/
structure Leak where
  address : Nat
  size : Nat
  ageNs : Nat
  file : String
  line : Nat
  owner : Option DriverId
  deriving DecidableEq

/-- What a scan finds. -/
structure LeakScan where
  /-- Leaks that no earlier scan has reported, in table order. -/
  newLeaks : List Leak
  outstanding : Nat
  outstandingBytes : Nat
  deriving DecidableEq

/-- The table of allocations. -/
structure AllocationTracker where
  capacity : Nat
  records : List AllocationRecord := []
  liveCount : Nat := 0
  /-- The bytes that live records hold, up to the largest word. -/
  liveBytes : Nat := 0
  deriving DecidableEq

namespace AllocationTracker

def bytesPerSlot : Nat := 64

def footprint (capacity : Nat) : Nat := capacity * bytesPerSlot

def create (capacity : Nat) : Except TelemetryError AllocationTracker := do
  Table.checkCapacity "tracking capacity" capacity bytesPerSlot
  return { capacity }

/-- The position and the time of one of the records that satisfy `p`. Of two of them, the later one
in the table is taken if `prefers` holds of the earlier one's time and its own. -/
def choose? (prefers : Nat → Nat → Bool) (p : AllocationRecord → Bool) :
    List AllocationRecord → Option (Nat × Nat)
  | [] => none
  | r :: rest =>
    let later := (choose? prefers p rest).map fun (i, t) => (i + 1, t)
    if p r then
      match later with
      | some (i, t) => if prefers r.allocatedNs t then some (i, t) else some (0, r.allocatedNs)
      | none => some (0, r.allocatedNs)
    else later

/-- The position of the first record with the earliest time among those that satisfy `p`. -/
def firstEarliest? (p : AllocationRecord → Bool) : List AllocationRecord → Option (Nat × Nat) :=
  choose? (fun time later => decide (later < time)) p

/-- The position of the last record with the latest time among those that satisfy `p`. -/
def lastLatest? (p : AllocationRecord → Bool) : List AllocationRecord → Option (Nat × Nat) :=
  choose? (fun time later => decide (time ≤ later)) p

def liveRecords (t : AllocationTracker) : List AllocationRecord := t.records.filter (!·.freed)

def trackAlloc (t : AllocationTracker) (record : AllocationRecord) :
    Except TelemetryError AllocationTracker :=
  if record.address = 0 then .error (.invalidParam "null address")
  else
    let record := { record with freed := false, leakReported := false }
    let counted (records : List AllocationRecord) : AllocationTracker :=
      { t with
        records
        liveCount := t.liveCount + 1
        liveBytes := Word.satAdd t.liveBytes record.size }
    if t.records.length < t.capacity then .ok (counted (t.records ++ [record]))
    else
      match firstEarliest? (·.freed) t.records with
      | some (slot, _) => .ok (counted (t.records.set slot record))
      | none => .error (.capacityExhausted .allocationRecords)

/-- Frees the newest live record of an address; answers the record as freed. -/
def trackFree (t : AllocationTracker) (address : Nat) :
    Except TelemetryError (AllocationRecord × AllocationTracker) :=
  match lastLatest? (fun r => !r.freed && r.address == address) t.records with
  | none => .error .notFound
  | some (slot, _) =>
    match t.records[slot]? with
    | none => .error .notFound
    | some record =>
      let freed := { record with freed := true }
      .ok (freed,
        { t with
          records := t.records.set slot freed
          liveCount := t.liveCount - 1
          liveBytes := t.liveBytes - record.size })

def isLeaked (nowNs thresholdNs : Nat) (r : AllocationRecord) : Bool :=
  !r.freed && decide (thresholdNs < nowNs - r.allocatedNs)

def leakOf (nowNs : Nat) (r : AllocationRecord) : Leak where
  address := r.address
  size := r.size
  ageNs := nowNs - r.allocatedNs
  file := r.file
  line := r.line
  owner := r.owner

/-- Finds the live records older than the threshold and marks them as reported. -/
def scan (t : AllocationTracker) (nowNs thresholdNs : Nat) : LeakScan × AllocationTracker :=
  let leaked := t.records.filter (isLeaked nowNs thresholdNs)
  ({ newLeaks := (leaked.filter (!·.leakReported)).map (leakOf nowNs)
     outstanding := leaked.length
     outstandingBytes := leaked.foldl (fun sum r => Word.satAdd sum r.size) 0 },
   { t with
     records := t.records.map fun r =>
       if isLeaked nowNs thresholdNs r then { r with leakReported := true } else r })

def release (t : AllocationTracker) : AllocationTracker :=
  { t with records := [], liveCount := 0, liveBytes := 0 }

end AllocationTracker

end DriverTelemetry
