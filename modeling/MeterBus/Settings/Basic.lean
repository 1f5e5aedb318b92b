import MeterBus.Log.Format
import MeterBus.Net.SocketAddress
import MeterBus.Proxy.Port
import MeterBus.Proxy.Routing
import MeterBus.Text.Hex
import MeterBus.Text.Unsigned

/-!
# Settings

What can be set about the serial lines, the ports, the routing and the monitoring of the proxy, as
it is written in a settings file. Everything has a usual value but the paths of the ports.
-/

namespace MeterBus

/-- The parity bit of a serial line. -/
inductive Parity where
  | even | odd | none
  deriving DecidableEq, Repr, Inhabited

/-- The name of a parity in settings. -/
def Parity.name : Parity → String
  | .even => "even"
  | .odd => "odd"
  | .none => "none"

/-- The name of a parity in logs. -/
def Parity.label : Parity → String
  | .even => "Even"
  | .odd => "Odd"
  | .none => "None"

/-- The settings of the serial lines. -/
structure SerialSettings where
  baudrate : UInt32 := 2400
  parity : Parity := .even
  deriving DecidableEq, Repr

/-- Reads a baud rate. -/
def baudrate? (text : String) : Option UInt32 :=
  (Unsigned.parseSigned? (UInt32.size - 1) text).map UInt32.ofNat

/-- The paths of the ports. -/
abbrev PortSettings := PerPort (Option String)

/-- The settings of the routing, which have still to be checked. -/
structure RoutingSettings where
  slaveAddress : UInt8 := Routing.standard.slaveAddress
  localAddress : UInt8 := Routing.standard.localAddress
  /-- Hexadecimal digits. -/
  localSelectData : String := Hex.encode Routing.standard.localSelectData
  /-- Milliseconds. -/
  responseTimeout : Nat := Routing.standard.responseTimeout
  deriving DecidableEq, Repr

/-- The settings of logs and metrics. -/
structure MonitoringSettings where
  /-- The name or the rank of a severity. -/
  logLevel : String := "info"
  logFormat : Log.Format := .compact
  /-- Where metrics are served, if they are. -/
  metricsAddress : Option SocketAddress := none
  deriving DecidableEq, Repr

/-- All settings. -/
structure Settings where
  serial : SerialSettings := {}
  ports : PortSettings := .replicate none
  routing : RoutingSettings := {}
  monitoring : MonitoringSettings := {}
  deriving DecidableEq, Repr

end MeterBus
