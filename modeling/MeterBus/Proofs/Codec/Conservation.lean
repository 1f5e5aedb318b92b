import MeterBus.Proofs.Codec.Session
import MeterBus.Proofs.Frame.RoundTrip

/-!
# No byte is lost in a codec

Whatever is done with a codec, the bytes that were supplied are those of the frames that it gave, in
order, with the bytes that it dropped among them, and then those that are still in the buffer.
`Pieces` says how bytes are made up of frames and single bytes. What one look finds is such a part of
the buffer, and parts are put one behind the other in the course of a session.
-/

namespace MeterBus

namespace Codec

/-- Whether some bytes are the wire bytes of these frames, in order, and so many single bytes among
them. -/
inductive Pieces : List UInt8 → List Frame → Nat → Prop where
  | nothing : Pieces [] [] 0
  | frame {frame : Frame} {wire rest : List UInt8} {frames : List Frame} {count : Nat}
      (encoded : frame.encode = .ok wire) (later : Pieces rest frames count) :
      Pieces (wire ++ rest) (frame :: frames) count
  | byte {byte : UInt8} {rest : List UInt8} {frames : List Frame} {count : Nat}
      (later : Pieces rest frames count) : Pieces (byte :: rest) frames (count + 1)

namespace Pieces

variable {bytes others : List UInt8} {frames more : List Frame} {count further : Nat}

/-- Pieces behind pieces. -/
theorem append (first : Pieces bytes frames count) (second : Pieces others more further) :
    Pieces (bytes ++ others) (frames ++ more) (count + further) := by
  induction first with
  | nothing => simpa using second
  | frame encoded later inductionHypothesis =>
    rw [List.append_assoc]
    exact .frame encoded inductionHypothesis
  | byte later inductionHypothesis =>
    rw [Nat.add_right_comm]
    exact .byte inductionHypothesis

/-- Any bytes are single bytes. -/
theorem of_bytes (bytes : List UInt8) : Pieces bytes [] bytes.length := by
  induction bytes with
  | nil => exact .nothing
  | cons byte rest inductionHypothesis => exact .byte inductionHypothesis

/-- The wire bytes of a frame alone. -/
theorem of_frame {frame : Frame} (valid : frame.validate = .ok ()) :
    Pieces frame.layout [frame] 0 := by
  have alone : Pieces (frame.layout ++ []) [frame] 0 :=
    .frame (Frame.encode_eq_ok_iff.2 ⟨valid, rfl⟩) .nothing
  rwa [List.append_nil] at alone

/-- There are no more single bytes than bytes. -/
theorem count_le (pieces : Pieces bytes frames count) : count ≤ bytes.length := by
  induction pieces with
  | nothing => exact Nat.le_refl 0
  | frame encoded later inductionHypothesis =>
    rw [List.length_append]
    omega
  | byte later inductionHypothesis => exact Nat.succ_le_succ inductionHypothesis

end Pieces

variable {codec : Codec} {buffer dropped rest content : List UInt8} {ended : Bool}
  {outcome : Outcome}

/-- What a finding takes off the buffer is what it drops and the frame that it gives. -/
theorem Finding.pieces (found : Finding ended codec buffer dropped rest outcome) :
    ∃ passed, buffer = passed ++ outcome.buffer ∧
      Pieces passed outcome.frame?.toList dropped.length := by
  obtain ⟨result, codecAfter, left, events⟩ := outcome
  obtain ⟨rfl, _, gives, _, _, _⟩ := found
  have skipped := Pieces.of_bytes dropped
  cases gives with
  | @frame consumed frame accepted =>
    refine ⟨dropped ++ frame.layout, ?_, ?_⟩
    · rw [List.append_assoc, ← Frame.eq_layout_append_of_read accepted]
    · exact skipped.append (.of_frame (Frame.validate_of_read accepted))
  | nothing empty => exact ⟨dropped, by rw [empty], skipped⟩
  | waiting => exact ⟨dropped, rfl, skipped⟩
  | truncated => exact ⟨dropped, rfl, skipped⟩
  | malformed => exact ⟨dropped, rfl, skipped⟩

/-- What one use takes off the buffer, behind which it puts what is supplied, is what it drops and
the frame that it gives. -/
theorem Effect.pieces (effect : Effect codec buffer content outcome) :
    ∃ (passed : List UInt8) (count : Nat), buffer ++ content = passed ++ outcome.buffer ∧
      Pieces passed outcome.frame?.toList count ∧
      outcome.codec.discarded = codec.discarded + count ∧ (codec.resync = false → count = 0) := by
  cases effect with
  | supply => exact ⟨[], 0, rfl, .nothing, rfl, fun _ => rfl⟩
  | decline => exact ⟨[], 0, List.append_nil buffer, .nothing, rfl, fun _ => rfl⟩
  | @find ended dropped rest outcome found =>
    obtain ⟨passed, split, pieces⟩ := found.pieces
    refine ⟨passed, dropped.length, by rw [List.append_nil, split], pieces, found.counted, ?_⟩
    intro strict
    rw [(found.of_strict strict).1, List.length_nil]

/-- A use that fails leaves the buffer as it was. -/
theorem Effect.buffer_eq_of_error {failure : LinkError}
    (effect : Effect codec buffer content outcome) (failed : outcome.result = .error failure) :
    outcome.buffer = buffer := by
  cases effect with
  | supply => cases failed
  | decline => rfl
  | find found =>
    have gives := found.gives
    rw [failed] at gives
    obtain ⟨left, strict, _⟩ := gives.of_error
    obtain ⟨_, whole, _⟩ := found.of_strict strict
    rw [left, ← whole]

namespace Session

/-- What was supplied in a session is accounted for. -/
structure Accounts (resync : Bool) (supplied : List UInt8) (session : Session) : Prop where
  sound : session.Sound resync
  pieces : ∃ passed, supplied = passed ++ session.buffer ∧
    Pieces passed session.frames session.codec.discarded
  /-- A strict codec drops nothing. -/
  lossless : resync = false → session.codec.discarded = 0

variable {session : Session} {resync : Bool} {supplied : List UInt8}

/-- One use keeps the account. -/
theorem Accounts.use (accounts : Accounts resync supplied session) (operation : Operation) :
    Accounts resync (supplied ++ operation.supplied) (session.use operation) := by
  obtain ⟨sound, ⟨passed, rfl, pieces⟩, lossless⟩ := accounts
  obtain ⟨taken, dropped, split, more, counted, lossfree⟩ :=
    (perform_effect sound.remembers operation).pieces
  have countedBehind : (session.use operation).codec.discarded
      = session.codec.discarded + dropped := counted
  refine ⟨sound.use operation, ⟨passed ++ taken, ?_, ?_⟩, ?_⟩
  · rw [List.append_assoc, split, List.append_assoc]
    rfl
  · rw [frames_use, countedBehind]
    exact pieces.append more
  · intro strict
    rw [countedBehind, lossless strict, lossfree (sound.mode.trans strict)]

/-- The whole course of a session is accounted for. -/
theorem accounts_after (resync : Bool) (operations : List Operation) :
    Accounts resync (operations.flatMap Operation.supplied) ((start resync).after operations) :=
  after_keeps (motive := Accounts resync) (fun _ _ operation accounts => accounts.use operation)
    ⟨sound_start resync, ⟨[], rfl, by cases resync <;> exact .nothing⟩,
      fun _ => by cases resync <;> rfl⟩ operations

end Session

/-- In either mode, the bytes supplied to a codec are the wire bytes of the frames that it gave, in
order, with the bytes that it dropped among them, and then its buffer. It counts every byte that it
drops, so that the count is never larger than the number of bytes supplied. Where it fails, it
leaves its buffer alone, and a strict codec never drops a byte. -/
theorem bytes_are_conserved :
    (∀ (resync : Bool) (operations : List Operation),
      let session := (Session.start resync).after operations
      (∃ passed, operations.flatMap Operation.supplied = passed ++ session.buffer ∧
        Pieces passed session.frames session.codec.discarded) ∧
      session.codec.discarded ≤ (operations.flatMap Operation.supplied).length ∧
      ∀ operation failure,
        (session.codec.perform session.buffer operation).result = .error failure →
        (session.use operation).buffer = session.buffer) ∧
    ∀ operations, ((Session.start false).after operations).codec.discarded = 0 := by
  constructor
  · intro resync operations session
    obtain ⟨sound, ⟨passed, supplied, pieces⟩, _⟩ := Session.accounts_after resync operations
    refine ⟨⟨passed, supplied, pieces⟩, ?_, ?_⟩
    · rw [supplied, List.length_append]
      exact Nat.le_add_right_of_le pieces.count_le
    · intro operation failure failed
      exact (perform_effect sound.remembers operation).buffer_eq_of_error failed
  · intro operations
    exact (Session.accounts_after false operations).lossless rfl

/-- An acknowledgement between a byte of noise and the start of a frame that never comes, and noise
that a strict codec refuses behind an acknowledgement. -/
theorem bytes_are_conserved_at_noise :
    let hearing : List Operation := [.append [0x00, 0xE5, 0x10], .decode, .decodeEnd]
    let recovering := (Session.start true).after hearing
    let failing := (Session.start false).after [.append [0xE5, 0x00], .decode]
    (recovering.frames = [.single] ∧ recovering.codec.discarded = 2 ∧ recovering.buffer = [] ∧
      ∃ passed, hearing.flatMap Operation.supplied = passed ++ recovering.buffer ∧
        Pieces passed recovering.frames recovering.codec.discarded) ∧
    (failing.frames = [.single] ∧ failing.buffer = [0x00] ∧
      (failing.codec.perform failing.buffer .decode).result
        = .error (.malformed (.unexpectedStart 0x00)) ∧
      (failing.use .decode).buffer = failing.buffer) := by
  intro hearing recovering failing
  exact ⟨⟨rfl, rfl, rfl, (bytes_are_conserved.1 true hearing).1⟩, rfl, rfl, rfl,
    (bytes_are_conserved.1 false [.append [0xE5, 0x00], .decode]).2.2 .decode _ rfl⟩

end Codec

end MeterBus
