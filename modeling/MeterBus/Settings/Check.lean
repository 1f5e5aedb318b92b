import MeterBus.Settings.Basic
import MeterBus.Text.Blank
import MeterBus.Text.Quoted

/-!
# Checking settings

Settings can be well-formed and still of no use. `Settings.validate` finds the first thing that
would keep a program from starting; `portPath`, `routing` and `logLevel` give the checked values.
-/

namespace MeterBus

/-- Why settings are of no use. -/
inductive InvalidSetting where
  /-- A port has no path. -/
  | missingPort (port : Port)
  /-- The baud rate is zero. -/
  | baudrate
  /-- The slave is given no time to answer. -/
  | timeout
  /-- The address of a key stands for every slave. -/
  | address (key : String) (value : UInt8)
  /-- The data that selects the slave is not made of eight bytes. -/
  | selectData
  /-- There is no such severity. -/
  | logLevel (name : String)
  deriving DecidableEq, Repr

/-- The text that reports a setting of no use. -/
def InvalidSetting.message : InvalidSetting → String
  | .missingPort port => "no tty path configured for " ++ port.name
  | .baudrate => "baud rate must be positive"
  | .timeout => "response timeout must be positive"
  | .address key value => key ++ " " ++ Hex.byteText value ++ " is a broadcast address"
  | .selectData => "local_select_data must be 8 hex-encoded bytes"
  | .logLevel name => "unknown log level " ++ Quoted.text name

namespace Settings

/-- The path of a port, which may not be blank. -/
def portPath (settings : Settings) (port : Port) : Except InvalidSetting String :=
  match settings.ports.get port with
  | some path => if Blank.isEmpty path then .error (.missingPort port) else .ok path
  | none => .error (.missingPort port)

/-- The eight bytes that some text gives, which blanks may surround. -/
def selectData? (text : String) : Option (List UInt8) :=
  (Hex.ofDigits? (Blank.trim text.toList)).filter (·.length = 8)

/-- The routing. -/
def checkedRouting (settings : Settings) : Except InvalidSetting Routing :=
  let given := settings.routing
  if AddressField.isBroadcast given.slaveAddress then
    .error (.address "slave_address" given.slaveAddress)
  else if AddressField.isBroadcast given.localAddress then
    .error (.address "local_address" given.localAddress)
  else if given.responseTimeout = 0 then .error .timeout
  else
    match selectData? given.localSelectData with
    | none => .error .selectData
    | some data =>
      .ok {
        slaveAddress := given.slaveAddress
        localAddress := given.localAddress
        localSelectData := data
        responseTimeout := given.responseTimeout }

/-- The severity up to which records are logged. -/
def logLevel (settings : Settings) : Except InvalidSetting Log.Level :=
  match Log.Level.ofText? settings.monitoring.logLevel with
  | some level => .ok level
  | none => .error (.logLevel settings.monitoring.logLevel)

/-- Checks everything that a program needs before it opens a port. -/
def validate (settings : Settings) : Except InvalidSetting Unit := do
  let _ ← settings.portPath .externalMaster
  let _ ← settings.portPath .slave
  let _ ← settings.portPath .localMaster
  if settings.serial.baudrate = 0 then throw .baudrate
  let _ ← settings.checkedRouting
  let _ ← settings.logLevel

end Settings

end MeterBus
