import DriverTelemetry.Error

/-!
# Configuration errors

Why a configuration, or a text that should describe one, is rejected.
-/

namespace DriverTelemetry

/-- Why a configuration is rejected. -/
inductive ConfigError where
  | zeroInterval (setting : String)
  | zeroCapacity (setting : String)
  | thresholdRange
  | thresholdOrder
  | zeroMultiplier
  | malformed
  | unknownKey
  deriving DecidableEq

namespace ConfigError

def causeName : ConfigError → String
  | zeroInterval _ => "ZeroInterval"
  | zeroCapacity _ => "ZeroCapacity"
  | thresholdRange => "ThresholdRange"
  | thresholdOrder => "ThresholdOrder"
  | zeroMultiplier => "ZeroMultiplier"
  | malformed => "Malformed"
  | unknownKey => "UnknownKey"

def message : ConfigError → String
  | zeroInterval setting => s!"{setting} must be non-zero"
  | zeroCapacity setting => s!"{setting} must be non-zero"
  | thresholdRange => "alert thresholds must be percentages"
  | thresholdOrder => "alert_threshold exceeds critical_threshold"
  | zeroMultiplier => "anomaly multiplier must be non-zero"
  | malformed => "malformed configuration line"
  | unknownKey => "unknown configuration key"

def toTelemetryError (_ : ConfigError) : TelemetryError := .invalidParam "configuration"

end ConfigError

end DriverTelemetry
