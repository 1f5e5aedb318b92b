import MeterBus.Proofs.Codec.Memoryless
import MeterBus.Proofs.Codec.Taking

/-!
# The course of a codec

A codec is used again and again with one buffer that nobody else touches. A `Session` keeps what came
of each use. One use either puts bytes behind the buffer, or declines to, or looks into it, as
`perform_effect` says, and what every use keeps with regard to the bytes that were supplied holds in
the whole course, by `Session.after_keeps`.
-/

namespace MeterBus

namespace Codec

/-- The bytes that a use supplies to the buffer. -/
def Operation.supplied : Operation → List UInt8
  | .append content => content
  | .decode => []
  | .decodeEnd => []
  | .encode frame =>
    match frame.encode with
    | .ok wire => wire
    | .error _ => []

/-- What one use of a codec does to it and its buffer, with the bytes that it supplies. -/
inductive Effect (codec : Codec) (buffer : List UInt8) : List UInt8 → Outcome → Prop where
  /-- Bytes are put behind the buffer. -/
  | supply {content : List UInt8} {events : List Event} :
      Effect codec buffer content ⟨.ok none, codec, buffer ++ content, events⟩
  /-- A frame that does not fit the wire format is not put there. -/
  | decline {cause : FrameError} :
      Effect codec buffer [] ⟨.error (.unsendable cause), codec, buffer, []⟩
  /-- What stands in the buffer is found. -/
  | find {ended : Bool} {dropped rest : List UInt8} {outcome : Outcome}
      (found : Finding ended codec buffer dropped rest outcome) : Effect codec buffer [] outcome

/-- Every use of a codec whose memory is right has one of these effects. -/
theorem perform_effect {codec : Codec} {buffer : List UInt8} (remembers : codec.Remembers buffer)
    (operation : Operation) :
    Effect codec buffer operation.supplied (codec.perform buffer operation) := by
  cases operation with
  | append content => exact .supply
  | decode =>
    obtain ⟨dropped, rest, found⟩ := decode_finds remembers
    exact .find found
  | decodeEnd =>
    obtain ⟨dropped, rest, found⟩ := decodeEnd_finds remembers
    exact .find found
  | encode frame =>
    simp only [perform, encode, Operation.supplied]
    cases frame.encode with
    | ok wire => exact .supply
    | error cause => exact .decline

/-- A codec and its buffer in the course of their use. -/
structure Session where
  codec : Codec
  buffer : List UInt8
  /-- What came of each use so far, in order. -/
  outcomes : List Outcome

namespace Session

/-- A fresh codec of either mode, with an empty buffer. -/
def start (resync : Bool) : Session :=
  ⟨if resync then resynchronizing else strict, [], []⟩

/-- Uses the codec once. -/
def use (session : Session) (operation : Operation) : Session :=
  let outcome := session.codec.perform session.buffer operation
  ⟨outcome.codec, outcome.buffer, session.outcomes ++ [outcome]⟩

/-- Uses the codec again and again. -/
def after (session : Session) (operations : List Operation) : Session :=
  operations.foldl use session

/-- The frames that the codec gave so far, in order. -/
def frames (session : Session) : List Frame :=
  session.outcomes.filterMap Outcome.frame?

/-- Whether a codec is in this mode and its memory is right about its buffer. -/
structure Sound (resync : Bool) (session : Session) : Prop where
  mode : session.codec.resync = resync
  remembers : session.codec.Remembers session.buffer

variable {session : Session} {resync : Bool}

/-- One use gives its frame behind those that were given before. -/
theorem frames_use (session : Session) (operation : Operation) :
    (session.use operation).frames =
      session.frames ++ (session.codec.perform session.buffer operation).frame?.toList := by
  simp only [frames, use, List.filterMap_append, List.filterMap_cons, List.filterMap_nil]
  cases (session.codec.perform session.buffer operation).frame? <;> rfl

/-- What every use keeps, with regard to the bytes supplied so far, the whole course keeps. -/
theorem after_keeps {motive : List UInt8 → Session → Prop}
    (keeps : ∀ supplied session operation, motive supplied session →
      motive (supplied ++ operation.supplied) (session.use operation))
    (initially : motive [] session) (operations : List Operation) :
    motive (operations.flatMap Operation.supplied) (session.after operations) := by
  have behind (supplied : List UInt8) (session : Session) (so : motive supplied session) :
      motive (supplied ++ operations.flatMap Operation.supplied) (session.after operations) := by
    induction operations generalizing supplied session with
    | nil => simpa [after] using so
    | cons operation later inductionHypothesis =>
      have whole := inductionHypothesis _ _ (keeps supplied session operation so)
      rwa [List.append_assoc, ← List.flatMap_cons] at whole
  exact behind [] session initially

/-- One use leaves the mode as it is and the memory right. -/
theorem Sound.use (sound : session.Sound resync) (operation : Operation) :
    (session.use operation).Sound resync := by
  obtain ⟨_, remembers, mode⟩ := perform_sight sound.remembers operation
  exact ⟨mode.trans sound.mode, remembers⟩

/-- A fresh codec remembers nothing. -/
theorem sound_start (resync : Bool) : (start resync).Sound resync where
  mode := by cases resync <;> rfl
  remembers := by cases resync <;> exact remembers_of_required_eq_zero rfl []

/-- In the whole course the mode is as it was at the start and the memory is right. -/
theorem sound_after (resync : Bool) (operations : List Operation) :
    ((start resync).after operations).Sound resync :=
  after_keeps (motive := fun _ session => session.Sound resync)
    (fun _ _ operation sound => sound.use operation) (sound_start resync) operations

end Session

end Codec

end MeterBus
