/-!
# Driver subsystems

Every metric belongs to a driver subsystem, and every event is tagged with the one that emitted it.
-/

namespace DriverTelemetry

/-- The driver subsystems, in the order of their numbers. -/
inductive Subsystem where
  | core | pci | usb | nvme | input | acpi | hotplug | network | audio | gpu
  deriving DecidableEq, Inhabited

namespace Subsystem

/-- Every subsystem, in order. -/
def all : List Subsystem :=
  [core, pci, usb, nvme, input, acpi, hotplug, network, audio, gpu]

def name : Subsystem → String
  | core => "core"
  | pci => "pci"
  | usb => "usb"
  | nvme => "nvme"
  | input => "input"
  | acpi => "acpi"
  | hotplug => "hotplug"
  | network => "network"
  | audio => "audio"
  | gpu => "gpu"

def ordinal (s : Subsystem) : Nat := s.ctorIdx

def ofName? (name : String) : Option Subsystem := all.find? (·.name == name)

end Subsystem

end DriverTelemetry
