import MeterBus.Proofs.Frame.RoundTrip
import MeterBus.Proofs.Stream.Contact

/-!
# What a line gives is valid

Whatever codec reads a line, and in whatever state, a frame that it gives was read off some bytes. So
it fits the wire format, and can be sent on.
-/

namespace MeterBus

namespace Codec

variable {codec : Codec} {buffer : List UInt8} {frame : Frame}

/-- A look gives valid frames only. -/
theorem validate_of_look {ended : Bool} {reported : List Event}
    (given : (look ended codec reported buffer).result = .ok (some frame)) :
    frame.validate = .ok () := by
  induction buffer generalizing codec reported with
  | nil => simp [look] at given
  | cons byte rest inductionHypothesis =>
    rw [look] at given
    split at given
    · next consumed found accepted =>
      obtain rfl : found = frame := by simpa using given
      exact Frame.validate_of_read accepted
    · split at given
      · exact inductionHypothesis given
      · simp at given
    · split at given
      · exact inductionHypothesis given
      · simp at given

/-- Decoding gives valid frames only. -/
theorem validate_of_decode (given : (decode codec buffer).result = .ok (some frame)) :
    frame.validate = .ok () := by
  unfold decode at given
  split at given
  · simp at given
  · exact validate_of_look given

/-- Decoding at the end of the input gives valid frames only. -/
theorem validate_of_decodeEnd (given : (decodeEnd codec buffer).result = .ok (some frame)) :
    frame.validate = .ok () := by
  unfold decodeEnd at given
  split at given
  · split at given
    · simp at given
    · split at given
      · exact validate_of_look given
      · exact validate_of_look given
  · dsimp only at given
    split at given
    · simp at given
    · exact validate_of_decode given

end Codec

/-- What a reader gives without a read is valid. -/
theorem FrameReader.validate_of_settle {reader : FrameReader} {frame : Frame}
    (given : reader.settle.1 = some (.frame frame)) : frame.validate = .ok () := by
  have attempted {found : Frame} (given : reader.attempt.result = .ok (some found)) :
      found.validate = .ok () := by
    unfold attempt at given
    split at given
    · exact Codec.validate_of_decodeEnd given
    · exact Codec.validate_of_decode given
  unfold settle at given
  split at given
  · simp at given
  · split at given
    · dsimp only at given
      split at given
      · next found foundEq =>
        obtain rfl : found = frame := by simpa using given
        exact attempted foundEq
      · simp at given
      · split at given <;> simp at given
    · simp at given

namespace Line

variable {line after : Line} {contacts : List Contact} {now : Nat} {frame : Frame}

/-- What a poll of a reader gives is valid. -/
theorem validate_of_pollReader {closed : Bool} {reader : FrameReader} {arrivals : List Arrival}
    (given : (pollReader now closed reader arrivals).poll = .frame frame) :
    frame.validate = .ok () := by
  fun_induction pollReader now closed reader arrivals with
  | case1 reader arrivals poll settled events settledEq =>
    have settling := @FrameReader.validate_of_settle reader frame
    rw [settledEq] at settling
    exact settling (congrArg some given)
  | case2 reader settled events settledEq closed poll after absorbedEq =>
    have noFrame := settled.makeRoom.absorb_ne_frame .ended frame
    rw [absorbedEq] at noFrame
    exact absurd (congrArg some given) noFrame
  | case3 reader settled events settledEq closed after absorbedEq last =>
    have found : after.settle.1 = some (.frame frame) := by
      cases poll : after.settle.1 with
      | none => simp [last, poll] at given
      | some poll => simpa [last, poll] using given
    exact FrameReader.validate_of_settle found
  | case4 => simp at given
  | case5 reader settled events settledEq arrival later due space poll after absorbedEq =>
    have noFrame := settled.makeRoom.absorb_ne_frame (arrival.cut space).1 frame
    rw [absorbedEq] at noFrame
    exact absurd (congrArg some given) noFrame
  | case6 reader settled events settledEq arrival later due space after absorbedEq polled
      inductionHypothesis => exact inductionHypothesis given
  | case7 => simp at given

/-- What a poll of a line gives is valid. -/
theorem validate_of_poll (given : (line.poll now).1 = .frame frame) : frame.validate = .ok () :=
  validate_of_pollReader given

/-- What waiting for a line gives is valid. -/
theorem validate_of_awaitAt {later : List Nat}
    (given : (awaitAt now line later).poll = .frame frame) : frame.validate = .ok () := by
  induction later generalizing now line with
  | nil =>
    unfold awaitAt at given
    split at given
    · simp at given
    · next poll after events _ polled =>
      have found : (line.poll now).1 = poll := congrArg Prod.fst polled
      exact validate_of_poll (found.trans given)
  | cons next rest inductionHypothesis =>
    unfold awaitAt at given
    split at given
    · exact inductionHypothesis given
    · next poll after events _ polled =>
      have found : (line.poll now).1 = poll := congrArg Prod.fst polled
      exact validate_of_poll (found.trans given)

/-- What contacts with a line give is valid. -/
theorem Undergoes.validate (undergoes : line.Undergoes contacts after) :
    ∀ contact ∈ contacts, contact.answer = .frame frame → frame.validate = .ok () := by
  induction contacts generalizing line with
  | nil => simp
  | cons contact others inductionHypothesis =>
    intro other among given
    cases contact with
    | poll time answer =>
      obtain ⟨polled, behind⟩ := undergoes
      rcases List.mem_cons.1 among with rfl | among
      · exact validate_of_poll (polled.trans given)
      · exact inductionHypothesis behind other among given
    | wait start limit finish answer =>
      obtain ⟨awaited, _, behind⟩ := undergoes
      rcases List.mem_cons.1 among with rfl | among
      · exact validate_of_awaitAt (awaited.trans given)
      · exact inductionHypothesis behind other among given
    | write time sent written =>
      rcases List.mem_cons.1 among with rfl | among
      · simp [Contact.answer] at given
      · exact inductionHypothesis undergoes.2 other among given

end Line

end MeterBus
