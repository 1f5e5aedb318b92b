import MeterBus.Proxy.Activity
import MeterBus.Text.Double

/-!
# Counters

Six counters tell what the multiplexer has done; three of them count per port. `Metrics.ofTrace`
counts the activities of a trace and `Metrics.exposition` shows all counters in the Prometheus text
format.
-/

namespace MeterBus

/-- The samples of a counter that counts per label, in the order of the labels. -/
abbrev Labelled := List (String × Nat)

/-- The samples with an amount added to the one of a label, which appears if it is new. -/
def Labelled.add (label : String) (amount : Nat) : Labelled → Labelled
  | [] => [(label, amount)]
  | (other, value) :: rest =>
    if label = other then (other, value + amount) :: rest
    else if label < other then (label, amount) :: (other, value) :: rest
    else (other, value) :: Labelled.add label amount rest

/-- The value of a label. -/
def Labelled.value (label : String) (samples : Labelled) : Nat :=
  (samples.lookup label).getD 0

/-- Something that is counted. -/
inductive Counter where
  /-- Exchanges with the slave that were completed. -/
  | framesForwarded
  /-- Frames taken from a port. -/
  | framesReceived (port : String)
  /-- Frames written to a port. -/
  | framesSent (port : String)
  /-- Requests that were answered for the slave. -/
  | localAcks
  /-- Requests that the slave did not answer in time. -/
  | responseTimeouts
  /-- Frames from a port that have no place in the protocol. -/
  | unexpectedFrames (port : String)
  deriving DecidableEq, Repr

/-- The values of all counters. -/
structure Metrics where
  framesForwarded : Nat := 0
  framesReceived : Labelled := []
  framesSent : Labelled := []
  localAcks : Nat := 0
  responseTimeouts : Nat := 0
  unexpectedFrames : Labelled := []
  deriving DecidableEq, Repr

/-- What an activity counts for, if anything. -/
def Activity.counter? : Activity → Option Counter
  | .received port _ => some (.framesReceived port.name)
  | .unexpected port _ => some (.unexpectedFrames port.name)
  | .sent port _ _ => some (.framesSent port.name)
  | .acknowledged _ => some .localAcks
  | .relayed _ => some .framesForwarded
  | .timedOut _ _ => some .responseTimeouts
  | _ => none

namespace Metrics

/-- The metrics with an amount added to a counter. -/
def add (counter : Counter) (amount : Nat) (metrics : Metrics) : Metrics :=
  match counter with
  | .framesForwarded => { metrics with framesForwarded := metrics.framesForwarded + amount }
  | .framesReceived port =>
    { metrics with framesReceived := Labelled.add port amount metrics.framesReceived }
  | .framesSent port => { metrics with framesSent := Labelled.add port amount metrics.framesSent }
  | .localAcks => { metrics with localAcks := metrics.localAcks + amount }
  | .responseTimeouts => { metrics with responseTimeouts := metrics.responseTimeouts + amount }
  | .unexpectedFrames port =>
    { metrics with unexpectedFrames := Labelled.add port amount metrics.unexpectedFrames }

/-- The counts of a trace, whose newest entry stands first. -/
def ofTrace (trace : List Entry) : Metrics :=
  trace.foldr
    (fun entry metrics =>
      match entry.activity.counter? with
      | some counter => metrics.add counter 1
      | none => metrics)
    {}

/-! ## Exposition -/

/-- A label value between its quotes. -/
def escapeLabel (label : String) : String :=
  String.join <| label.toList.map fun c =>
    match c with
    | '\\' => "\\\\"
    | '"' => "\\\""
    | '\n' => "\\n"
    | c => c.toString

/-- A counter as it is shown: its name, what it counts, and its samples. -/
structure Family where
  name : String
  help : String
  /-- The name of each sample, with its label, and its value. -/
  samples : List (String × Nat)

/-- A counter with one sample. -/
def plainFamily (name help : String) (value : Nat) : Family :=
  ⟨name, help, [(name, value)]⟩

/-- A counter with a sample for each port that it has seen. -/
def portFamily (name help : String) (samples : Labelled) : Family :=
  ⟨name, help,
    samples.map fun (label, value) =>
      (name ++ "\x7bport=\"" ++ escapeLabel label ++ "\"\x7d", value)⟩

/-- All counters in the order of their names. -/
def families (metrics : Metrics) : List Family :=
  [plainFamily "mbus_frames_forwarded_total"
      "Request/response exchanges relayed through the slave" metrics.framesForwarded,
    portFamily "mbus_frames_received_total" "Frames decoded per port" metrics.framesReceived,
    portFamily "mbus_frames_sent_total" "Frames written per port" metrics.framesSent,
    plainFamily "mbus_local_acks_total" "Requests acknowledged by the proxy" metrics.localAcks,
    plainFamily "mbus_response_timeouts_total" "Forwarded requests without a slave response"
      metrics.responseTimeouts,
    portFamily "mbus_unexpected_frames_total" "Frames matching no routing rule"
      metrics.unexpectedFrames]

/-- The text of a value: a counter has 64 bits and is shown as a double. -/
def valueText (value : Nat) : String :=
  toString (Double.shown (value % UInt64.size))

/-- The samples of all counters as they are shown. -/
def samples (metrics : Metrics) : List (String × String) :=
  metrics.families.flatMap fun family =>
    family.samples.map fun (name, value) => (name, valueText value)

/-- A counter in the text format; one without samples is left out. -/
def Family.exposition (family : Family) : String :=
  if family.samples.isEmpty then ""
  else
    "# HELP " ++ family.name ++ " " ++ family.help ++ "\n# TYPE " ++ family.name ++ " counter\n"
      ++ String.join (family.samples.map fun (name, value) =>
        name ++ " " ++ valueText value ++ "\n")

/-- All counters in the text format. -/
def exposition (metrics : Metrics) : String :=
  String.join (metrics.families.map Family.exposition)

end Metrics

end MeterBus
