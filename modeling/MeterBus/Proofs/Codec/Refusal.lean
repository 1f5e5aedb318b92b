import MeterBus.Proofs.Codec.Session

/-!
# A strict codec that refuses

What a strict codec refuses stays at the front of its buffer, and later bytes do not make a frame of
it. `Refusing` is what holds from the first refusal on: every look fails for the same cause, every
use keeps it, and the buffer only grows.
-/

namespace MeterBus

namespace Codec

/-- Whether a strict codec has bytes at the front of its buffer that it refuses for this cause. -/
structure Refusing (cause : FrameError) (codec : Codec) (buffer : List UInt8) : Prop where
  strict : codec.resync = false
  remembers : codec.Remembers buffer
  refused : Frame.read buffer = .error (.invalid cause)

variable {codec : Codec} {buffer dropped rest content : List UInt8} {cause : FrameError}
  {ended : Bool} {outcome : Outcome}

/-- A codec that refuses its buffer finds nothing else in it. -/
theorem Refusing.finding (refusing : Refusing cause codec buffer)
    (found : Finding ended codec buffer dropped rest outcome) :
    outcome.result = .error (.malformed cause) ∧ outcome.buffer = buffer := by
  obtain ⟨strict, _, refused⟩ := refusing
  obtain ⟨rfl, rfl, _⟩ := found.of_strict strict
  have gives := found.gives
  obtain ⟨result, codecAfter, left, events⟩ := outcome
  cases gives with
  | frame accepted =>
    rw [accepted] at refused
    cases refused
  | nothing empty => exact absurd empty (Frame.ne_nil_of_read_invalid refused)
  | waiting some short =>
    rw [short] at refused
    cases refused
  | truncated some short =>
    rw [short] at refused
    cases refused
  | malformed same =>
    rw [same] at refused
    cases refused
    exact ⟨rfl, rfl⟩

/-- A codec that refuses its buffer fails whenever it is asked, also at the end of the input. -/
theorem Refusing.result (refusing : Refusing cause codec buffer) :
    (codec.decode buffer).result = .error (.malformed cause) ∧
      (codec.decodeEnd buffer).result = .error (.malformed cause) := by
  obtain ⟨_, _, found⟩ := decode_finds refusing.remembers
  obtain ⟨_, _, foundAtEnd⟩ := decodeEnd_finds refusing.remembers
  exact ⟨(refusing.finding found).1, (refusing.finding foundAtEnd).1⟩

/-- A codec that refuses its buffer gives no frame, and only what is supplied comes into the
buffer. -/
theorem Refusing.effect (refusing : Refusing cause codec buffer)
    (effect : Effect codec buffer content outcome) :
    outcome.frame? = none ∧ outcome.buffer = buffer ++ content := by
  cases effect with
  | supply => exact ⟨rfl, rfl⟩
  | decline => exact ⟨rfl, (List.append_nil buffer).symm⟩
  | find found =>
    obtain ⟨failed, same⟩ := refusing.finding found
    rw [Outcome.frame?, failed, same, List.append_nil]
    exact ⟨rfl, rfl⟩

/-- A strict codec that fails with malformed input refuses its buffer from then on. -/
theorem refusing_of_decode (strict : codec.resync = false) (remembers : codec.Remembers buffer)
    (failed : (codec.decode buffer).result = .error (.malformed cause)) :
    Refusing cause codec buffer := by
  obtain ⟨dropped, rest, found⟩ := decode_finds remembers
  obtain ⟨rfl, rfl, _⟩ := found.of_strict strict
  have gives := found.gives
  rw [failed] at gives
  refine ⟨strict, remembers, ?_⟩
  obtain ⟨_, _, ⟨same, causeEq, refused⟩ | ⟨truncated, _⟩⟩ := gives.of_error
  · cases causeEq
    exact refused
  · cases truncated

namespace Session

/-- Whether a session has gone on from an earlier one in which the codec refused its buffer, with
no frame given and only these bytes supplied since. -/
structure Stands (cause : FrameError) (earlier : Session) (supplied : List UInt8)
    (session : Session) : Prop where
  refusing : Refusing cause session.codec session.buffer
  frames_eq : session.frames = earlier.frames
  buffer_eq : session.buffer = earlier.buffer ++ supplied

variable {session earlier : Session} {supplied : List UInt8}

/-- One use changes nothing about a codec that refuses. -/
theorem Stands.use (stands : Stands cause earlier supplied session) (operation : Operation) :
    Stands cause earlier (supplied ++ operation.supplied) (session.use operation) := by
  obtain ⟨refusing, frames, buffer⟩ := stands
  have sound : session.Sound false := ⟨refusing.strict, refusing.remembers⟩
  have soundBehind := sound.use operation
  obtain ⟨frameless, grown⟩ := refusing.effect (perform_effect refusing.remembers operation)
  have bufferBehind : (session.use operation).buffer = session.buffer ++ operation.supplied := grown
  refine ⟨⟨soundBehind.mode, soundBehind.remembers, ?_⟩, ?_, ?_⟩
  · rw [bufferBehind]
    exact Frame.read_append_of_invalid refusing.refused operation.supplied
  · rw [frames_use, frameless, Option.toList_none, List.append_nil, frames]
  · rw [bufferBehind, buffer, List.append_assoc]

/-- No course of uses changes anything about a codec that refuses. -/
theorem stands_after (refusing : Refusing cause session.codec session.buffer)
    (operations : List Operation) :
    Stands cause session (operations.flatMap Operation.supplied) (session.after operations) :=
  after_keeps (motive := Stands cause session) (fun _ _ operation stands => stands.use operation)
    ⟨refusing, rfl, (List.append_nil session.buffer).symm⟩ operations

end Session

/-- Once a strict codec has failed with malformed input, it fails for the same cause whenever it is
asked, at the end of the input or before, whatever is supplied or asked in between. It never gives
another frame, and its buffer is the one that it refused with what was supplied since. -/
theorem refusal_is_permanent {operations : List Operation} {cause : FrameError}
    (failed :
      let session := (Session.start false).after operations
      (session.codec.decode session.buffer).result = .error (.malformed cause))
    (later : List Operation) :
    let session := (Session.start false).after operations
    let behind := (session.use .decode).after later
    (behind.codec.decode behind.buffer).result = .error (.malformed cause) ∧
      (behind.codec.decodeEnd behind.buffer).result = .error (.malformed cause) ∧
      behind.frames = session.frames ∧
      behind.buffer = session.buffer ++ later.flatMap Operation.supplied := by
  intro session behind
  have sound := Session.sound_after false operations
  have refusing := refusing_of_decode sound.mode sound.remembers failed
  -- the failing call is itself one of the uses that change nothing
  obtain ⟨refusingBehind, frames, buffer⟩ := Session.stands_after refusing (.decode :: later)
  obtain ⟨failing, failingAtEnd⟩ := refusingBehind.result
  exact ⟨failing, failingAtEnd, frames, buffer⟩

/-- Noise behind an acknowledgement is refused for good, also in front of another acknowledgement
and at the end of the input. -/
theorem refusal_is_permanent_at_noise :
    let before : List Operation := [.append [0xE5, 0x00], .decode]
    let later : List Operation := [.append [0xE5], .decodeEnd, .append [0x16], .decode]
    let session := (Session.start false).after before
    let behind := (session.use .decode).after later
    (session.codec.decode session.buffer).result = .error (.malformed (.unexpectedStart 0x00)) ∧
      session.frames = [.single] ∧
      (behind.codec.decode behind.buffer).result = .error (.malformed (.unexpectedStart 0x00)) ∧
      (behind.codec.decodeEnd behind.buffer).result = .error (.malformed (.unexpectedStart 0x00)) ∧
      behind.frames = session.frames ∧
      behind.buffer = session.buffer ++ later.flatMap Operation.supplied := by
  intro before later session behind
  have failed : (session.codec.decode session.buffer).result
      = .error (.malformed (.unexpectedStart 0x00)) := rfl
  exact ⟨failed, rfl, refusal_is_permanent failed later⟩

end Codec

end MeterBus
