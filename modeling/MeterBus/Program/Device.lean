import MeterBus.Host
import MeterBus.Settings.Basic

/-!
# Serial devices

Opening a serial device is logged, by the program and by the driver of the device. It gives what is at
the other end, or fails in the words of the driver.
-/

namespace MeterBus.Device

/-- What is logged when a device is opened. The second record is made by the serial driver, which adds
where it comes from. -/
def records (host : Host) (path : String) (settings : SerialSettings) : List Log.Record :=
  [⟨.debug, "opening serial port",
      [("path", .quoted path), ("baudrate", .number settings.baudrate.toNat),
        ("parity", .text settings.parity.label)]⟩,
    ⟨.debug, "opening serial port in synchronous blocking mode",
      host.driverSource.map fun (name, value) => (name, .detail value)⟩]

/-- Why a device cannot be opened. -/
structure Failure where
  condition : String
  message : String
  deriving DecidableEq, Repr

/-- A refusal in the words of the serial driver. It knows the system by the system's own texts, and
of all conditions tells only a missing device apart. -/
def Failure.ofSystem : SystemError → Failure
  | .notFound => ⟨"NotFound", SystemError.notFound.description⟩
  | .unusableName => ⟨"Other", "Invalid argument"⟩
  | error => ⟨"Other", error.description⟩

/-- Why a path that is no device cannot be opened as one on a host. -/
def failure (host : Host) (path : String) : Failure :=
  .ofSystem (host.deviceError path)

/-- Opens a device of a host. -/
def connect (host : Host) (path : String) : Except Failure Peer :=
  match host.peer? path with
  | some peer => .ok peer
  | none => .error (failure host path)

end MeterBus.Device
