import MeterBus.Codec
import MeterBus.Stream.Storage

/-!
# Polling a transport for frames

A frame reader stands between a transport and a codec. Polled, it first gives what its buffer
holds, and reads from the transport only when that is not enough. An input that ends hands the rest
of the buffer to the codec for the last time; a failure is followed by one end of stream, after
which reading goes on.

`settle` is the part of a poll that needs no read, `makeRoom` comes before a read and `absorb` takes
in what the read gave. A read gives no more bytes than there is room for.
-/

namespace MeterBus

/-- What one read of a transport gives. -/
inductive Chunk where
  /-- Some bytes; none at all is as if nothing had been read. -/
  | bytes (content : List UInt8)
  /-- The read failed. -/
  | failure (cause : LinkError)
  /-- The transport has no more bytes for now. -/
  | ended
  deriving DecidableEq, Repr

/-- The number of bytes in a chunk. -/
def Chunk.size : Chunk → Nat
  | .bytes content => content.length
  | .failure _ | .ended => 0

/-- What a poll gives. -/
inductive Poll where
  /-- Nothing yet. -/
  | pending
  /-- The end of the stream. -/
  | ended
  /-- A failure of the transport or of the codec. -/
  | failure (cause : LinkError)
  /-- The next frame. -/
  | frame (frame : Frame)
  deriving DecidableEq, Repr

/-- The state between two polls. -/
structure FrameReader where
  codec : Codec
  buffer : List UInt8 := []
  /-- The space around the buffer. -/
  storage : Storage := {}
  /-- Whether the last read met the end of the transport. -/
  ended : Bool := false
  /-- Whether the buffer may hold something to give. -/
  readable : Bool := false
  /-- Whether the last poll gave a failure. -/
  errored : Bool := false
  deriving DecidableEq, Repr

namespace FrameReader

/-- A reader with an empty buffer. -/
def fresh (codec : Codec) : FrameReader := { codec := codec }

/-- What the codec makes of the buffer. -/
def attempt (reader : FrameReader) : Codec.Outcome :=
  if reader.ended then reader.codec.decodeEnd reader.buffer
  else reader.codec.decode reader.buffer

/-- What can be given without a read, if anything. -/
def settle (reader : FrameReader) : Option Poll × FrameReader × List Codec.Event :=
  if reader.errored then
    (some .ended, { reader with errored := false, readable := false }, [])
  else if reader.readable then
    let outcome := reader.attempt
    let after := { reader with
      codec := outcome.codec
      buffer := outcome.buffer
      storage := reader.storage.release (outcome.taken reader.codec) }
    match outcome.result with
    | .ok (some frame) => (some (.frame frame), after, outcome.events)
    | .error cause => (some (.failure cause), { after with errored := true }, outcome.events)
    | .ok none =>
      (if reader.ended then some .ended else none, { after with readable := false },
        outcome.events)
  else
    (none, reader, [])

/-- The reader with room for what a read gives. -/
def makeRoom (reader : FrameReader) : FrameReader :=
  { reader with storage := reader.storage.makeRoom reader.buffer.length }

/-- Takes in what a read gave, which may end the poll. -/
def absorb (reader : FrameReader) : Chunk → Option Poll × FrameReader
  | .bytes [] => (none, reader)
  | .bytes content =>
    (none, { reader with
      buffer := reader.buffer ++ content
      storage := reader.storage.fill content.length
      ended := false
      readable := true })
  | .failure cause => (some (.failure cause), { reader with errored := true })
  | .ended =>
    if reader.ended then (some .ended, reader)
    else (none, { reader with ended := true, readable := true })

/-- The codec never lengthens the buffer. -/
theorem length_attempt_le (reader : FrameReader) :
    reader.attempt.buffer.length ≤ reader.buffer.length := by
  unfold attempt
  split
  · exact Codec.length_decodeEnd_le ..
  · exact Codec.length_decode_le ..

/-- A frame that the codec gives leaves a shorter buffer. -/
theorem length_attempt_lt {reader : FrameReader} {frame : Frame}
    (given : reader.attempt.result = .ok (some frame)) :
    reader.attempt.buffer.length < reader.buffer.length := by
  unfold attempt at given ⊢
  split at given
  · next ending => simpa [ending] using Codec.length_decodeEnd_lt given
  · next going => simpa [going] using Codec.length_decode_lt given

/-- Settling never lengthens the buffer. -/
theorem length_settle_le (reader : FrameReader) :
    reader.settle.2.1.buffer.length ≤ reader.buffer.length := by
  have shorter := reader.length_attempt_le
  unfold settle
  split
  · exact Nat.le_refl _
  · split
    · dsimp only
      split <;> exact shorter
    · exact Nat.le_refl _

/-- Settling with a frame shortens the buffer. -/
theorem length_settle_lt {reader : FrameReader} {frame : Frame}
    (given : reader.settle.1 = some (.frame frame)) :
    reader.settle.2.1.buffer.length < reader.buffer.length := by
  unfold settle at given ⊢
  split at given
  · simp at given
  · next sound =>
    split at given
    · next readable =>
      dsimp only at given
      split at given
      · next taken takenEq =>
        have shorter := length_attempt_lt takenEq
        simpa [sound, readable, takenEq] using shorter
      · simp at given
      · split at given <;> simp at given
    · simp at given

/-- The buffer grows by no more than what was read. -/
theorem length_absorb_le (reader : FrameReader) (chunk : Chunk) :
    (reader.absorb chunk).2.buffer.length ≤ reader.buffer.length + chunk.size := by
  unfold absorb
  split
  · simp
  · simp [Chunk.size]
  · simp
  · split <;> simp

/-- Taking in a chunk gives no frame by itself. -/
theorem absorb_ne_frame (reader : FrameReader) (chunk : Chunk) (frame : Frame) :
    (reader.absorb chunk).1 ≠ some (.frame frame) := by
  unfold absorb
  split
  · simp
  · simp
  · simp
  · split <;> simp

end FrameReader

end MeterBus
