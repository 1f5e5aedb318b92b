import MeterBus.Codec
import MeterBus.Proxy.Port

/-!
# What the multiplexer does

Everything that the multiplexer does leaves an entry in its trace. The log, the counters and the
bytes that went out are views of that trace.
-/

namespace MeterBus

/-- Why a call of the multiplexer failed. -/
inductive ProxyError where
  /-- No frame could be read from a port. -/
  | read (port : Port) (cause : LinkError)
  /-- No frame could be written to a port. -/
  | write (port : Port) (cause : LinkError)
  /-- A port ended while an answer was awaited from it. -/
  | portClosed (port : Port)
  /-- Every port has ended. -/
  | allPortsClosed
  deriving DecidableEq, Repr

/-- The text that reports a failure. -/
def ProxyError.message : ProxyError → String
  | .read port _ => "failed reading frame from " ++ port.name
  | .write port _ => "failed writing frame to " ++ port.name
  | .portClosed port => port.name ++ " port closed"
  | .allPortsClosed => "all ports closed"

/-- The texts that report a failure and what it came of, the outermost first. -/
def ProxyError.causes (error : ProxyError) : List String :=
  error.message ::
    match error with
    | .read _ cause | .write _ cause => [cause.message]
    | .portClosed _ | .allPortsClosed => []

/-- One thing that the multiplexer did. -/
inductive Activity where
  /-- The codec of a port reported something. -/
  | codec (port : Port) (event : Codec.Event)
  /-- A frame was taken from a port. -/
  | received (port : Port) (frame : Frame)
  /-- A frame has no place in the protocol. -/
  | unexpected (port : Port) (frame : Frame)
  /-- A frame of the external master is for another slave. -/
  | ignored (frame : Frame)
  /-- The local master selected the slave by its secondary address. -/
  | selected
  /-- A master is about to be answered for the slave. -/
  | acknowledging (port : Port)
  /-- A master was answered for the slave. -/
  | acknowledged (port : Port)
  /-- A frame of the slave came too late to answer anything. -/
  | stale (frame : Frame)
  /-- A request is about to be sent to the slave. -/
  | forwarding (request : Frame) (origin : Port)
  /-- The slave did not answer within its time. -/
  | timedOut (origin : Port) (timeout : Nat)
  /-- An answer of the slave is about to be sent to a master. -/
  | relaying (reply : Frame) (origin : Port)
  /-- An exchange is complete. -/
  | relayed (origin : Port)
  /-- What earlier writes had left behind went out in a write of its own. -/
  | relieved (port : Port) (written : List UInt8)
  /-- A frame was sent, in a write of these bytes. -/
  | sent (port : Port) (frame : Frame) (written : List UInt8)
  /-- A port ended. -/
  | ended (port : Port)
  /-- A call was stopped by a cancellation. -/
  | cancelled
  deriving DecidableEq, Repr

/-- The log record of an activity that is logged. -/
def Activity.record? : Activity → Option Log.Record
  | .codec _ event => some event.record
  | .received port frame =>
    some ⟨.debug, "received frame", [("frame", .text frame.text), ("port", .text port.name)]⟩
  | .unexpected port frame =>
    some ⟨.error, "received unexpected frame",
      [("frame", .text frame.text), ("port", .text port.name)]⟩
  | .ignored frame =>
    some ⟨.info, "ignoring frame for a slave we do not proxy", [("frame", .text frame.text)]⟩
  | .selected => some ⟨.debug, "local master selected the slave by secondary address", []⟩
  | .acknowledging port => some ⟨.debug, "acknowledging locally", [("port", .text port.name)]⟩
  | .stale frame => some ⟨.warn, "dropping late slave reply", [("frame", .text frame.text)]⟩
  | .forwarding request origin =>
    some ⟨.debug, "forwarding frame to slave",
      [("frame", .text request.text), ("from", .text origin.name)]⟩
  | .timedOut origin timeout =>
    some ⟨.warn, "slave did not answer in time",
      [("from", .text origin.name), ("timeout_ms", .number timeout)]⟩
  | .relaying reply origin =>
    some ⟨.debug, "relaying slave response",
      [("frame", .text reply.text), ("to", .text origin.name)]⟩
  | .ended port => some ⟨.warn, "end of stream", [("port", .text port.name)]⟩
  | .cancelled => some ⟨.debug, "cancellation requested, shutting down", []⟩
  | .acknowledged _ | .relayed _ | .relieved .. | .sent .. => none

/-- An activity and its time in milliseconds. -/
structure Entry where
  time : Nat
  activity : Activity
  deriving DecidableEq, Repr

end MeterBus
