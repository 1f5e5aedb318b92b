import MeterBus.Program.Device
import MeterBus.Program.Report
import MeterBus.Stream.Line

/-!
# The bus monitor

The monitor logs every frame on a line, and in the end how many bytes belong to none. The line is a
capture in a file or a serial device.
-/

namespace MeterBus.Monitor

/-! ## Watching a line -/

/-- The record of a frame, with its bytes if they are wanted. -/
def frameRecord (hex : Bool) (frame : Frame) : Except FrameError Log.Record := do
  let kind := ("kind", Log.Value.text frame.kind.name)
  if hex then
    let raw ← frame.encode
    return ⟨.info, frame.text, [kind, ("raw", .text (Hex.encode raw))]⟩
  else
    return ⟨.info, frame.text, [kind]⟩

/-- What watching a line gave: what was logged, and the number of frames or why it went no
further. -/
structure Findings where
  records : List Log.Record
  outcome : Except (List String) Nat

/-- Logs frames, each behind what the codec reported about it. -/
def logFrames (hex : Bool) : List (Frame × List Codec.Event) → Findings
  | [] => ⟨[], .ok 0⟩
  | (frame, events) :: others =>
    let reported := events.map Codec.Event.record
    match frameRecord hex frame with
    | .error cause => ⟨reported, .error [cause.message]⟩
    | .ok record =>
      let rest := logFrames hex others
      ⟨reported ++ record :: rest.records, rest.outcome.map (· + 1)⟩

/-- What is logged about the bytes that belong to no frame. -/
def discardRecords (discarded : Nat) : List Log.Record :=
  if 0 < discarded then
    [⟨.warn, "bytes skipped while resynchronising", [("discarded", .number discarded)]⟩]
  else []

/-- Watches a line to its end or to its first failure. -/
def watch (hex : Bool) (line : Line) : Findings :=
  let ready := line.readyFrames 0
  let findings := logFrames hex ready.frames
  match findings.outcome with
  | .error causes => ⟨findings.records, .error causes⟩
  | .ok count =>
    let records := findings.records ++ ready.events.map Codec.Event.record
    match ready.last with
    | .failure cause => ⟨records, .error ["Failed reading frame", cause.message]⟩
    | _ => ⟨records ++ discardRecords ready.line.reader.codec.discarded, .ok count⟩

/-- A line that gives some chunks and ends. -/
def lineOf (chunks : List Chunk) : Line :=
  (chunks.foldl (fun line chunk => line.feed 0 ⟨0, chunk⟩)
    (Line.fresh .resynchronizing)).close

/-- The chunks that reading a file gives. -/
def chunksOf : Node → List Chunk
  | .file content => [.bytes content]
  | .directory => [.failure (.transport SystemError.isDirectory.condition
      SystemError.isDirectory.message)]

/-! ## The program -/

/-- What is watched. -/
inductive Source where
  | capture (path : String)
  | device (path : String) (settings : SerialSettings)
  deriving DecidableEq, Repr

/-- What the monitor is asked to do. -/
structure Job where
  level : Log.Level
  format : Log.Format
  source : Source
  hex : Bool
  deriving DecidableEq, Repr

/-- The options of the monitor. -/
def options : List CommandLine.OptionSpec :=
  [{ name := "log-level", accepts := fun text => (Log.Level.ofText? text).isSome },
    { name := "log-format", accepts := fun text => (Log.Format.ofName? text).isSome },
    { name := "tty-path" },
    { name := "file", accepts := (· != "") },
    { name := "serial-baudrate", letter := some 's',
      accepts := fun text => (baudrate? text).isSome },
    { name := "hex", takesValue := false }]

/-- What a file and a device that were given mean together: there has to be one of the two. -/
def source? (file device : Option String) (settings : SerialSettings) : Option Source :=
  match file, device with
  | some path, none => some (.capture path)
  | none, some path => some (.device path settings)
  | _, _ => none

/-- The job that the arguments describe. -/
def job (arguments : List String) : Except CommandLine.Stop Job := do
  let given ← CommandLine.read options [] arguments
  let usual : SerialSettings := {}
  let baudrate := (given.lookup "serial-baudrate").bind baudrate?
  let settings := { usual with baudrate := baudrate.getD usual.baudrate }
  match source? (given.lookup "file") (given.lookup "tty-path") settings with
  | none => throw .misused
  | some source =>
    return {
      level := ((given.lookup "log-level").bind Log.Level.ofText?).getD .info
      format := ((given.lookup "log-format").bind Log.Format.ofName?).getD .compact
      source := source
      hex := (given.lookup "hex").isSome }

/-- What comes of watching a source. A device is watched until it is gone, and the monitor makes the same
of what comes in however long that takes. -/
def observe (host : Host) (hex : Bool) : Source → Findings
  | .capture path =>
    let start : Log.Record := ⟨.debug, "decoding capture", [("path", .text path)]⟩
    match host.open? path with
    | .error error => ⟨[start], .error ["Failed to open " ++ path, error.message]⟩
    | .ok node =>
      let findings := watch hex (lineOf (chunksOf node))
      ⟨start :: findings.records, findings.outcome⟩
  | .device path settings =>
    let opening := Device.records host path settings
    match Device.connect host path with
    | .error failure =>
      ⟨opening, .error ["Failed to open serial port " ++ path, failure.message]⟩
    | .ok peer =>
      let findings := watch hex (lineOf (peer.deliveries.map (·.chunk)))
      ⟨opening ++ findings.records, findings.outcome⟩

/-- Does a job. -/
def perform (host : Host) (job : Job) : Report :=
  let findings := observe host job.hex job.source
  let print := Log.lines job.level job.format
  match findings.outcome with
  | .ok count =>
    { output := print (findings.records ++ [⟨.info, "end of input", [("count", .number count)]⟩]) }
  | .error causes => .failed (print findings.records) causes

/-- How the monitor is started. -/
def usage : String :=
  "Usage: mbus-debug [--log-level LEVEL] [--log-format FORMAT] [-s BAUDRATE] [--hex] "
    ++ "(--tty-path TTY | --file FILE)"

/-- The monitor. -/
def run (host : Host) (arguments : List String) : Report :=
  match job arguments with
  | .ok job => perform host job
  | .error stop => .stopped usage stop

end MeterBus.Monitor
