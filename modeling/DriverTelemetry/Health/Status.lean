import DriverTelemetry.Config.Basic

/-!
# Health status

The operating condition of a driver, from `unknown` to `failed` in order of severity. A condition
worsens at once and improves one step at a time; `failed` holds while the observation is critical.
-/

namespace DriverTelemetry

/-- The operating condition of a driver. -/
inductive HealthStatus where
  | unknown
  | healthy
  | degraded
  | warning
  | critical
  | failed
  deriving DecidableEq, Inhabited

namespace HealthStatus

/-- Every status, in order of severity. -/
def all : List HealthStatus := [unknown, healthy, degraded, warning, critical, failed]

def name : HealthStatus → String
  | unknown => "Unknown"
  | healthy => "Healthy"
  | degraded => "Degraded"
  | warning => "Warning"
  | critical => "Critical"
  | failed => "Failed"

/-- The number of a status, from 0: the order of severity. -/
def ordinal (s : HealthStatus) : Nat := s.ctorIdx

def ofName? (name : String) : Option HealthStatus := all.find? (·.name == name)

instance : LE HealthStatus := ⟨fun a b => a.ordinal ≤ b.ordinal⟩

instance : LT HealthStatus := ⟨fun a b => a.ordinal < b.ordinal⟩

instance (a b : HealthStatus) : Decidable (a ≤ b) :=
  inferInstanceAs (Decidable (a.ordinal ≤ b.ordinal))

instance (a b : HealthStatus) : Decidable (a < b) :=
  inferInstanceAs (Decidable (a.ordinal < b.ordinal))

/-- Whether an evaluation that ends in this status counts as a failure. -/
def isFailing : HealthStatus → Bool
  | critical | failed => true
  | _ => false

/-- One step towards `healthy`. -/
def improved : HealthStatus → HealthStatus
  | failed => critical
  | critical => warning
  | warning => degraded
  | degraded | healthy | unknown => healthy

def observe (cpuPercent crashes : Nat) (alerts : AlertThresholds) : HealthStatus :=
  if alerts.critical.toNat < cpuPercent then critical
  else if alerts.alert.toNat < cpuPercent then warning
  else if 0 < crashes then degraded
  else healthy

def next (s observed : HealthStatus) : HealthStatus :=
  if s = unknown then observed
  else if s = failed ∧ critical ≤ observed then failed
  else if s ≤ observed then observed
  else if s.improved < observed then observed
  else s.improved

end HealthStatus

end DriverTelemetry
