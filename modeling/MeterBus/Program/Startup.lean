import MeterBus.Program.Device
import MeterBus.Program.Report
import MeterBus.Proxy.Run
import MeterBus.Settings.Check
import MeterBus.Settings.File

/-!
# Starting the proxy

The proxy takes its settings from a file, from its environment and from its arguments, each of which
overrides the ones before it. It checks them, prepares its metrics, opens its ports one after the other
and runs the multiplexer on them until that fails or the program is interrupted.
-/

namespace MeterBus.Startup

/-! ## Settings -/

/-- Settings that override those of a file. -/
structure Overrides where
  ports : PortSettings := .replicate none
  baudrate : Option UInt32 := none
  logLevel : Option String := none
  logFormat : Option Log.Format := none
  metricsAddress : Option SocketAddress := none
  deriving DecidableEq, Repr

/-- The paths of the ports, of which some are overridden. -/
def overridePorts (given base : PortSettings) : PortSettings where
  externalMaster := given.externalMaster <|> base.externalMaster
  slave := given.slave <|> base.slave
  localMaster := given.localMaster <|> base.localMaster

/-- Settings of which some are overridden; each override concerns one setting only. -/
def Overrides.apply (overrides : Overrides) (base : Settings) : Settings where
  serial := { base.serial with baudrate := overrides.baudrate.getD base.serial.baudrate }
  ports := overridePorts overrides.ports base.ports
  routing := base.routing
  monitoring := {
    logLevel := overrides.logLevel.getD base.monitoring.logLevel
    logFormat := overrides.logFormat.getD base.monitoring.logFormat
    metricsAddress := overrides.metricsAddress <|> base.monitoring.metricsAddress }

/-- The settings to start with. Only what is not overridden counts of the settings of a file. -/
def configure (base : Settings) (overrides : Overrides) : Except InvalidSetting Settings := do
  let settings := overrides.apply base
  settings.validate
  return settings

/-! ## Options -/

/-- The options of the proxy. -/
def options : List CommandLine.OptionSpec :=
  [{ name := "config", letter := some 'c', environmentName := some "MBUS_PROXY_CONFIG",
      accepts := (· != "") },
    { name := "tty-path-external-master",
      environmentName := some "MBUS_PROXY_TTY_EXTERNAL_MASTER" },
    { name := "tty-path-slave", environmentName := some "MBUS_PROXY_TTY_SLAVE" },
    { name := "tty-path-local-master", environmentName := some "MBUS_PROXY_TTY_LOCAL_MASTER" },
    { name := "serial-baudrate", letter := some 's',
      environmentName := some "MBUS_PROXY_BAUDRATE",
      accepts := fun text => (baudrate? text).isSome },
    { name := "log-level", environmentName := some "MBUS_PROXY_LOG_LEVEL" },
    { name := "log-format", environmentName := some "MBUS_PROXY_LOG_FORMAT",
      accepts := fun text => (Log.Format.ofName? text).isSome },
    { name := "metrics-addr", environmentName := some "MBUS_PROXY_METRICS_ADDR",
      accepts := fun text => (SocketAddress.parse? text).isSome }]

/-- The overrides among the options given. -/
def Overrides.ofGiven (given : CommandLine.Given) : Overrides where
  ports := {
    externalMaster := given.lookup "tty-path-external-master"
    slave := given.lookup "tty-path-slave"
    localMaster := given.lookup "tty-path-local-master" }
  baudrate := (given.lookup "serial-baudrate").bind baudrate?
  logLevel := given.lookup "log-level"
  logFormat := (given.lookup "log-format").bind Log.Format.ofName?
  metricsAddress := (given.lookup "metrics-addr").bind SocketAddress.parse?

/-! ## The program -/

/-- The reasons why the settings of a file are missing. -/
def loadCauses (path : String) (error : SettingsError) : List String :=
  let outer := ["Failed to load config " ++ path, error.message]
  match error with
  | .unreadable _ cause => outer ++ [cause.message]
  | .malformed => outer

/-- The settings that some options lead to. `Document.parse?`, which reads the file, and
`CommandLine.read`, which the options come from, stand for readers of general use: nothing that is proved
about settings depends on what these two make of their texts. -/
def settingsOf (host : Host) (given : CommandLine.Given) : Except (List String) Settings := do
  let base ← match given.lookup "config" with
    | none => pure {}
    | some path =>
      match Settings.load host path with
      | .ok settings => pure settings
      | .error error => throw (loadCauses path error)
  match configure base (.ofGiven given) with
  | .ok settings => return settings
  | .error invalid => throw ["Invalid configuration", invalid.message]

/-- What the program does: it adds to its log, and may fail for some reasons, the outermost first. -/
abbrev Work := EStateM (List String) (List Log.Record)

/-- Adds records to the log. -/
def log (records : List Log.Record) : Work Unit :=
  modify (· ++ records)

/-- A part of the settings that is needed now. One of no use is reported by itself. -/
def need {α : Type} : Except InvalidSetting α → Work α
  | .ok value => return value
  | .error invalid => throw [invalid.message]

/-- Starts to serve metrics, if there is an address for them. -/
def serveMetrics : Option SocketAddress → Work Unit
  | none => return ()
  | some address =>
    match Host.listenError? address with
    | none => return ()
    | some error => throw ["Failed to bind metrics endpoint " ++ address.text, error.message]

/-- Opens a port with a codec that refuses malformed input. -/
def openPort (host : Host) (settings : Settings) (port : Port) : Work Line := do
  let path ← need (settings.portPath port)
  log (Device.records host path settings.serial)
  match Device.connect host path with
  | .ok peer => return peer.line .strict
  | .error failure =>
    throw ["Failed to open " ++ port.name ++ " port " ++ path, failure.message]

/-- The multiplexer on open lines, which is cancelled when the program is interrupted. -/
def multiplexer (host : Host) (routing : Routing) (lines : PerPort Line) : Multiplexer :=
  { Multiplexer.fresh routing with lines := lines, cancelAt := some host.interrupt }

/-- The time by which an exchange with the slave is over that is under way at the interruption. The
multiplexer is at work no longer than this: `run_multiplexer_unabandoned` says so. -/
def patience (host : Host) (routing : Routing) : Nat :=
  host.interrupt + routing.responseTimeout

/-- Runs the multiplexer on open lines until it fails or is interrupted. -/
def multiplex (host : Host) (routing : Routing) (lines : PerPort Line) : Work Unit := do
  let result := Multiplexer.run (patience host routing) (multiplexer host routing lines)
  log ((Multiplexer.leftBy result).trace.reverse.filterMap (·.activity.record?))
  match result with
  | .error (.failed error) _ => throw ("Multiplexer stopped" :: error.causes)
  | .ok () _ | .error .abandoned _ => return ()

/-- Does the work of the proxy. -/
def work (host : Host) (settings : Settings) : Work Unit := do
  serveMetrics settings.monitoring.metricsAddress
  let externalMaster ← openPort host settings .externalMaster
  let slave ← openPort host settings .slave
  let localMaster ← openPort host settings .localMaster
  log [⟨.info, "mbus-proxy starting",
    [("baudrate", .number settings.serial.baudrate.toNat),
      ("parity", .text settings.serial.parity.label)]⟩]
  let routing ← need settings.checkedRouting
  multiplex host routing ⟨externalMaster, slave, localMaster⟩
  log [⟨.info, "mbus-proxy stopped", []⟩]

/-- Starts with given settings. -/
def start (host : Host) (settings : Settings) : Report :=
  match settings.logLevel with
  | .error invalid => .failed [] [invalid.message]
  | .ok level =>
    let print := Log.lines level settings.monitoring.logFormat
    match work host settings [] with
    | .ok () records => { output := print records }
    | .error causes records => .failed (print records) causes

/-- How the proxy is started. -/
def usage : String :=
  "Usage: mbus-proxy [-c CONFIG] [--tty-path-external-master TTY] [--tty-path-slave TTY] "
    ++ "[--tty-path-local-master TTY] [-s BAUDRATE] [--log-level LEVEL] [--log-format FORMAT] "
    ++ "[--metrics-addr ADDRESS]"

/-- The proxy. -/
def run (host : Host) (environment : List (String × String)) (arguments : List String) : Report :=
  match CommandLine.read options environment arguments with
  | .error stop => .stopped usage stop
  | .ok given =>
    match settingsOf host given with
    | .ok settings => start host settings
    | .error causes => .failed [] causes

end MeterBus.Startup
