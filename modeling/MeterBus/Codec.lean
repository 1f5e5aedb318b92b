import MeterBus.Frame.Accepted
import MeterBus.Frame.Cursor
import MeterBus.Frame.Text
import MeterBus.Log.Record

/-!
# The frame codec

A codec takes frames off the front of a receive buffer and remembers how long the buffer has to be
before another look is worth while. A strict codec refuses malformed input and leaves it in the
buffer. A resynchronising codec drops one byte after the other until a frame may start.

The buffer belongs to the caller: every operation takes it and gives it back.
-/

namespace MeterBus

/-- What can go wrong on the connection of a port. -/
inductive LinkError where
  /-- The input is no sequence of frames. -/
  | malformed (cause : FrameError)
  /-- The input ends within a frame. -/
  | truncated
  /-- A frame to be sent does not fit the wire format. -/
  | unsendable (cause : FrameError)
  /-- The transport took none of the bytes to be sent. -/
  | writeRefused
  /-- The transport itself failed, under a condition and with a text of its own. -/
  | transport (condition message : String)
  deriving DecidableEq, Repr

/-- The text that reports a failure of a connection. -/
def LinkError.message : LinkError → String
  | .malformed cause | .unsendable cause => cause.message
  | .truncated => "bytes remaining on stream"
  | .writeRefused => "failed to write frame to transport"
  | .transport _ message => message

/-- Why a resynchronising codec drops a byte. -/
inductive DropReason where
  /-- No frame starts with it. -/
  | invalid (cause : FrameError)
  /-- The frame that it may start is not complete when the input ends. -/
  | truncated
  deriving DecidableEq, Repr

/-- The text that reports the reason. -/
def DropReason.message : DropReason → String
  | .invalid cause => cause.message
  | .truncated => "truncated frame at end of input"

/-- The state of a codec. -/
structure Codec where
  /-- Whether malformed input is dropped rather than refused. -/
  resync : Bool
  /-- The buffer length from which on another look is worth while. -/
  required : Nat := 0
  /-- The number of bytes dropped so far. -/
  discarded : Nat := 0
  /-- The number of bytes dropped since the last frame. -/
  skipping : Nat := 0
  deriving DecidableEq, Repr

namespace Codec

/-- A fresh codec that refuses malformed input. -/
def strict : Codec := { resync := false }

/-- A fresh codec that drops malformed input. -/
def resynchronizing : Codec := { resync := true }

/-- What a codec reports about its work. -/
inductive Event where
  /-- A frame was taken off the buffer. -/
  | decoded (frame : Frame) (consumed : Nat)
  /-- A frame follows bytes that were dropped. -/
  | recovered (skipped : Nat)
  /-- The first byte of a gap was dropped. -/
  | lostSync (reason : DropReason) (byte : UInt8)
  /-- A further byte of a gap was dropped. -/
  | dropped (reason : DropReason) (byte : UInt8)
  /-- A frame was laid out for sending. -/
  | encoded (frame : Frame)
  deriving DecidableEq, Repr

/-- The log record of an event. -/
def Event.record : Event → Log.Record
  | .decoded frame consumed =>
    ⟨.trace, "decoded frame", [("frame", .text frame.text), ("consumed", .number consumed)]⟩
  | .recovered skipped => ⟨.debug, "frame sync recovered", [("skipped", .number skipped)]⟩
  | .lostSync reason byte =>
    ⟨.warn, "lost frame sync, discarding bytes",
      [("reason", .text reason.message), ("byte", .number byte.toNat)]⟩
  | .dropped reason byte =>
    ⟨.trace, "discarding byte",
      [("reason", .text reason.message), ("byte", .number byte.toNat)]⟩
  | .encoded frame => ⟨.trace, "encoding frame", [("frame", .text frame.text)]⟩

/-- What a look at the buffer gives. -/
structure Outcome where
  result : Except LinkError (Option Frame)
  codec : Codec
  buffer : List UInt8
  /-- What was reported, in order. -/
  events : List Event

/-- The number of bytes that were taken off the buffer of a codec: those that it dropped and those of
the frame that it gave. -/
def Outcome.taken (outcome : Outcome) (codec : Codec) : Nat :=
  let dropped := outcome.codec.discarded - codec.discarded
  match outcome.result with
  | .ok (some frame) => dropped + frame.encodedLength
  | _ => dropped

/-- The codec after a frame. -/
def afterFrame (codec : Codec) : Codec :=
  { codec with required := 0, skipping := 0 }

/-- What is reported with a frame: its end of a gap comes second. -/
def frameEvents (codec : Codec) (frame : Frame) (consumed : Nat) : List Event :=
  .decoded frame consumed :: if codec.skipping > 0 then [.recovered codec.skipping] else []

/-- The codec after dropping a byte. -/
def afterDrop (codec : Codec) : Codec :=
  { codec with
    required := 0, discarded := codec.discarded + 1, skipping := codec.skipping + 1 }

/-- What is reported with a dropped byte: the first one of a gap stands out. -/
def dropEvent (codec : Codec) (reason : DropReason) (byte : UInt8) : Event :=
  if codec.skipping = 0 then .lostSync reason byte else .dropped reason byte

/-- Looks at the buffer whatever its length. With `ended`, no more input will come, so that a
resynchronising codec drops the start of a frame that is not complete. Reports are collected newest
first. -/
def look (ended : Bool) (codec : Codec) (reported : List Event) : List UInt8 → Outcome
  | [] => ⟨.ok none, codec, [], reported.reverse⟩
  | byte :: rest =>
    let buffer := byte :: rest
    match Frame.read buffer with
    | .ok (consumed, frame) =>
      ⟨.ok (some frame), codec.afterFrame, buffer.drop consumed,
        reported.reverse ++ codec.frameEvents frame consumed⟩
    | .error (.incomplete missing) =>
      if ended && codec.resync then
        look ended codec.afterDrop (codec.dropEvent .truncated byte :: reported) rest
      else
        ⟨.ok none, { codec with required := buffer.length + missing.getD 1 }, buffer,
          reported.reverse⟩
    | .error (.invalid cause) =>
      if codec.resync then
        look ended codec.afterDrop (codec.dropEvent (.invalid cause) byte :: reported) rest
      else
        ⟨.error (.malformed cause), { codec with required := 0 }, buffer, reported.reverse⟩

/-- Whether a buffer is too short for another look. No more of it is looked at than decides. -/
def isWaiting (codec : Codec) (buffer : List UInt8) : Bool :=
  (buffer.take codec.required).length < codec.required

/-- A codec waits for a buffer of the required length. -/
theorem isWaiting_iff (codec : Codec) (buffer : List UInt8) :
    codec.isWaiting buffer ↔ buffer.length < codec.required := by
  simp only [isWaiting, List.length_take, decide_eq_true_eq]
  omega

/-- Takes the next frame off the buffer if the buffer is long enough to hold one. -/
def decode (codec : Codec) (buffer : List UInt8) : Outcome :=
  if codec.isWaiting buffer then ⟨.ok none, codec, buffer, []⟩
  else look false codec [] buffer

/-- Takes the next frame off a buffer that will not grow. A strict codec refuses what is left of an
incomplete frame. A resynchronising codec drops it, so that frames behind it are still found; what
it waited for cannot come, so the byte in front of a buffer that is too short goes unseen. -/
def decodeEnd (codec : Codec) (buffer : List UInt8) : Outcome :=
  if codec.resync then
    match buffer with
    | [] => ⟨.ok none, codec, [], []⟩
    | byte :: rest =>
      if codec.isWaiting buffer then
        look true codec.afterDrop [codec.dropEvent .truncated byte] rest
      else
        look true codec [] buffer
  else
    let outcome := decode codec buffer
    match outcome.result, outcome.buffer with
    | .ok none, _ :: _ => { outcome with result := .error .truncated }
    | _, _ => outcome

/-- Appends the bytes of a frame to a send buffer. -/
def encode (codec : Codec) (frame : Frame) (buffer : List UInt8) : Outcome :=
  match frame.encode with
  | .ok bytes => ⟨.ok none, codec, buffer ++ bytes, [.encoded frame]⟩
  | .error cause => ⟨.error (.unsendable cause), codec, buffer, []⟩

/-- A valid frame is laid out by every codec, behind what stands in the send buffer. -/
theorem encode_of_validate {frame : Frame} (codec : Codec) (buffer : List UInt8)
    (valid : frame.validate = .ok ()) :
    codec.encode frame buffer = ⟨.ok none, codec, buffer ++ frame.layout, [.encoded frame]⟩ := by
  rw [encode, Frame.encode_eq_ok_iff.2 ⟨valid, rfl⟩]

/-- A look takes off the buffer what it drops and what it gives. -/
theorem length_look_add_taken (ended : Bool) (codec : Codec) (reported : List Event)
    (buffer : List UInt8) :
    codec.discarded ≤ (look ended codec reported buffer).codec.discarded ∧
      (look ended codec reported buffer).buffer.length
        + (look ended codec reported buffer).taken codec = buffer.length := by
  induction buffer generalizing codec reported with
  | nil => simp [look, Outcome.taken]
  | cons byte rest inductionHypothesis =>
    have dropping (reason : DropReason) :
        codec.discarded ≤ (look ended codec.afterDrop (codec.dropEvent reason byte :: reported)
            rest).codec.discarded ∧
          (look ended codec.afterDrop (codec.dropEvent reason byte :: reported) rest).buffer.length
            + (look ended codec.afterDrop (codec.dropEvent reason byte :: reported) rest).taken
                codec = (byte :: rest).length := by
      have behind := inductionHypothesis codec.afterDrop (codec.dropEvent reason byte :: reported)
      revert behind
      generalize look ended codec.afterDrop (codec.dropEvent reason byte :: reported) rest = outcome
      rintro ⟨growing, counted⟩
      have dropped : codec.afterDrop.discarded = codec.discarded + 1 := rfl
      unfold Outcome.taken at counted ⊢
      simp only [List.length_cons]
      refine ⟨by omega, ?_⟩
      dsimp only at counted ⊢
      split at counted <;> simp_all <;> omega
    rw [look]
    split
    · next consumed frame readEq =>
      have fits := Frame.consumed_le_of_read readEq
      have consumedEq := Frame.consumed_eq_of_read readEq
      simp only [Outcome.taken, afterFrame, List.length_drop]
      omega
    · split
      · exact dropping _
      · simp [Outcome.taken]
    · split
      · exact dropping _
      · simp [Outcome.taken]

/-- Decoding takes off the buffer what it drops and what it gives. -/
theorem length_decode_add_taken (codec : Codec) (buffer : List UInt8) :
    (decode codec buffer).buffer.length + (decode codec buffer).taken codec = buffer.length := by
  unfold decode
  split
  · simp [Outcome.taken]
  · exact (length_look_add_taken ..).2

/-- Decoding at the end of the input takes off the buffer what it drops and what it gives. -/
theorem length_decodeEnd_add_taken (codec : Codec) (buffer : List UInt8) :
    (decodeEnd codec buffer).buffer.length + (decodeEnd codec buffer).taken codec
      = buffer.length := by
  unfold decodeEnd
  split
  · split
    · simp [Outcome.taken]
    · next byte rest =>
      split
      · have behind := length_look_add_taken true codec.afterDrop
          [codec.dropEvent .truncated byte] rest
        revert behind
        generalize look true codec.afterDrop [codec.dropEvent .truncated byte] rest = outcome
        rintro ⟨growing, counted⟩
        have dropped : codec.afterDrop.discarded = codec.discarded + 1 := rfl
        unfold Outcome.taken at counted ⊢
        simp only [List.length_cons]
        dsimp only at counted ⊢
        split at counted <;> simp_all <;> omega
      · exact (length_look_add_taken ..).2
  · have counted := length_decode_add_taken codec buffer
    revert counted
    dsimp only
    generalize decode codec buffer = outcome
    intro counted
    split
    · next nothing _ => simpa [Outcome.taken, nothing] using counted
    · exact counted

/-- An outcome with a frame took at least one byte. -/
theorem Outcome.taken_pos {outcome : Outcome} {frame : Frame}
    (given : outcome.result = .ok (some frame)) (codec : Codec) : 0 < outcome.taken codec := by
  have positive := frame.encodedLength_pos
  simp only [taken, given]
  omega

/-- Decoding never lengthens the buffer. -/
theorem length_decode_le (codec : Codec) (buffer : List UInt8) :
    (decode codec buffer).buffer.length ≤ buffer.length := by
  have counted := length_decode_add_taken codec buffer
  omega

/-- Decoding a frame shortens the buffer. -/
theorem length_decode_lt {codec : Codec} {buffer : List UInt8} {frame : Frame}
    (given : (decode codec buffer).result = .ok (some frame)) :
    (decode codec buffer).buffer.length < buffer.length := by
  have counted := length_decode_add_taken codec buffer
  have taken := Outcome.taken_pos given codec
  omega

/-- Decoding at the end of the input never lengthens the buffer. -/
theorem length_decodeEnd_le (codec : Codec) (buffer : List UInt8) :
    (decodeEnd codec buffer).buffer.length ≤ buffer.length := by
  have counted := length_decodeEnd_add_taken codec buffer
  omega

/-- Decoding a frame at the end of the input shortens the buffer. -/
theorem length_decodeEnd_lt {codec : Codec} {buffer : List UInt8} {frame : Frame}
    (given : (decodeEnd codec buffer).result = .ok (some frame)) :
    (decodeEnd codec buffer).buffer.length < buffer.length := by
  have counted := length_decodeEnd_add_taken codec buffer
  have taken := Outcome.taken_pos given codec
  omega

end Codec

end MeterBus
