import DriverTelemetry.Core.Metrics

/-!
# Standard metrics

The metrics that every driver subsystem is expected to keep. They are registered together on one
core; transfers and errors are then recorded under the metric of their subsystem.
-/

namespace DriverTelemetry

/-- What a standard metric is registered with. -/
structure MetricSpec where
  name : String
  kind : MetricKind
  subsystem : Subsystem
  description : String
  deriving DecidableEq

/-- The standard metrics, in the order in which they are registered. -/
def standardMetrics : List MetricSpec :=
  [⟨"driver_unload_time", .timer, .core, "Driver unloading time"⟩,
   ⟨"crash_recovery_count", .counter, .core, "Driver crash recoveries"⟩,
   ⟨"sandbox_violations", .counter, .core, "Driver sandbox violations"⟩,
   ⟨"pcie_device_count", .gauge, .pci, "PCIe devices present"⟩,
   ⟨"pcie_enumeration_time", .timer, .pci, "PCIe enumeration time"⟩,
   ⟨"pcie_bandwidth_usage", .bandwidth, .pci, "PCIe bandwidth usage"⟩,
   ⟨"msi_interrupts_processed", .counter, .pci, "MSI/MSI-X interrupts processed"⟩,
   ⟨"pcie_link_errors", .counter, .pci, "PCIe link errors"⟩,
   ⟨"pcie_power_state_changes", .counter, .pci, "PCIe power state changes"⟩,
   ⟨"usb_device_count", .gauge, .usb, "USB devices present"⟩,
   ⟨"usb_enumeration_time", .timer, .usb, "USB enumeration time"⟩,
   ⟨"usb_transfer_rate", .bandwidth, .usb, "USB transfer rate"⟩,
   ⟨"usb_errors", .counter, .usb, "USB errors"⟩,
   ⟨"thunderbolt_bandwidth", .bandwidth, .usb, "Thunderbolt bandwidth usage"⟩,
   ⟨"usb_c_power_negotiations", .counter, .usb, "USB-C power negotiations"⟩,
   ⟨"nvme_io_operations", .counter, .nvme, "NVMe I/O operations"⟩,
   ⟨"nvme_queue_depth", .gauge, .nvme, "NVMe queue depth"⟩,
   ⟨"nvme_response_time", .timer, .nvme, "NVMe response time"⟩,
   ⟨"nvme_bandwidth", .bandwidth, .nvme, "NVMe bandwidth"⟩,
   ⟨"nvme_errors", .counter, .nvme, "NVMe errors"⟩,
   ⟨"nvme_thermal_throttling", .counter, .nvme, "NVMe thermal throttling events"⟩,
   ⟨"input_events_processed", .counter, .input, "Input events processed"⟩,
   ⟨"input_latency", .histogram, .input, "Input event processing latency"⟩,
   ⟨"gesture_recognition_time", .timer, .input, "Gesture recognition time"⟩,
   ⟨"gaming_mode_switches", .counter, .input, "Gaming mode switches"⟩,
   ⟨"haptic_feedback_calls", .counter, .input, "Haptic feedback calls"⟩,
   ⟨"acpi_frequency_changes", .counter, .acpi, "CPU frequency changes"⟩,
   ⟨"acpi_power_transitions", .counter, .acpi, "Power state transitions"⟩,
   ⟨"thermal_events", .counter, .acpi, "Thermal events"⟩,
   ⟨"sci_interrupts", .counter, .acpi, "SCI interrupts"⟩,
   ⟨"cpu_temperature", .gauge, .acpi, "CPU temperature in tenths of a degree"⟩,
   ⟨"hotplug_detection_time", .timer, .hotplug, "Hot-plug detection time"⟩,
   ⟨"device_arrivals", .counter, .hotplug, "Device arrivals"⟩,
   ⟨"device_removals", .counter, .hotplug, "Device removals"⟩,
   ⟨"driver_load_failures", .counter, .hotplug, "Driver load failures"⟩]

/-- The standard metrics as registered on a core. -/
structure MetricBundle where
  core : Nat
  ids : List (String × MetricId)
  deriving DecidableEq

namespace MetricBundle

def id (b : MetricBundle) (name : String) : MetricId := (b.ids.lookup name).getD .none

/-- The metric that takes the bandwidth of transfers in a subsystem, if it has its own. -/
def bandwidthName? : Subsystem → Option String
  | .pci => some "pcie_bandwidth_usage"
  | .usb => some "usb_transfer_rate"
  | .nvme => some "nvme_bandwidth"
  | _ => none

/-- The metric that counts the errors of a subsystem, if it has its own. -/
def errorName? : Subsystem → Option String
  | .pci => some "pcie_link_errors"
  | .usb => some "usb_errors"
  | .nvme => some "nvme_errors"
  | _ => none

/-- Bytes per second of a transfer, up to the greatest signed word. -/
def bytesPerSecond (bytes durationNs : Nat) : Int :=
  min ((bytes * nsPerSec / durationNs : Nat) : Int) SignedWord.greatest

end MetricBundle

namespace Core

def registerStandardMetrics : Call MetricBundle := do
  let ids ← standardMetrics.mapM fun spec => do
    let id ← registerMetric spec.name spec.description spec.kind spec.subsystem
    return (spec.name, id)
  let _ ← log .info .core "Initialized telemetry metrics for all subsystems"
  return { core := (← get).core.number, ids }

/-- Records a transfer: on the bandwidth metric of its subsystem, else as bytes on the predefined
I/O throughput. -/
def recordBandwidth (b : MetricBundle) (subsystem : Subsystem) (bytes durationNs : Nat) :
    Call Unit := do
  if durationNs = 0 then throw (.invalidParam "transfer duration")
  match MetricBundle.bandwidthName? subsystem with
  | some name => updateGauge (b.id name) (MetricBundle.bytesPerSecond bytes durationNs)
  | none => updateCounter (← get).core.predefined.ioThroughput bytes

/-- Counts an error, in the error rate and in the counter of its subsystem if it has one, and logs
it. -/
def recordError (b : MetricBundle) (subsystem : Subsystem) : Call Unit := do
  updateCounter (← get).core.predefined.errorRate 1
  match MetricBundle.errorName? subsystem with
  | some name => updateCounter (b.id name) 1
  | none => pure ()
  let _ ← log .error subsystem s!"Error recorded in subsystem {subsystem.name}"

end Core

end DriverTelemetry
