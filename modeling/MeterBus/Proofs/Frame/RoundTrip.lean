import MeterBus.Frame.Accepted
import MeterBus.Proofs.Frame.Layout

/-!
# Reading is the inverse of laying out

The readers take a buffer apart from the front, one field after the other, and know nothing of the
layout of a whole frame. `ByteReader.frame_eq_ok_iff` says that they accept the layouts of valid
canonical frames and nothing else; for the callers of both sides, reading then inverts encoding.
-/

namespace MeterBus

namespace ByteReader

variable {bytes rest : List UInt8} {frame : Frame}

/-- A body is read off the front of its own framing. -/
theorem framed_append (body rest : List UInt8) :
    framed body.length (body ++ checksum body :: stopByte :: rest) = .ok (.ofBody body, rest) :=
  framed_eq_ok_iff.2 ⟨body, rfl, rfl, rfl⟩

/-- A length header is read off the front of a body that a length byte can count. -/
theorem lengthHeader_append {body : List UInt8} (covers : headerLength ≤ body.length)
    (counted : body.length < 256) (rest : List UInt8) :
    lengthHeader (UInt8.ofNat body.length :: UInt8.ofNat body.length :: longStart :: rest)
      = .ok (body.length, rest) := by
  have count : (UInt8.ofNat body.length).toNat = body.length := by
    rw [UInt8.toNat_ofNat']
    exact Nat.mod_eq_of_lt counted
  exact lengthHeader_eq_ok_iff.2
    ⟨UInt8.ofNat body.length, by rw [count]; exact covers, count.symm, rfl⟩

/-- A frame of variable length is read behind its start byte if its body is one that a length byte
can count. -/
theorem long_eq_ok_iff :
    long bytes = .ok (frame, rest) ↔
      ∃ body : List UInt8, headerLength ≤ body.length ∧ body.length < 256 ∧ frame = .ofBody body ∧
        bytes = UInt8.ofNat body.length :: UInt8.ofNat body.length :: longStart ::
          (body ++ checksum body :: stopByte :: rest) := by
  constructor
  · intro accepted
    simp only [long, bind, Except.bind] at accepted
    split at accepted
    · simp at accepted
    · next header headerEq =>
      obtain ⟨length, covers, count, headerSplit⟩ := lengthHeader_eq_ok_iff.1 headerEq
      obtain ⟨body, bodyLength, frameEq, bodySplit⟩ := framed_eq_ok_iff.1 accepted
      have lengthEq : length = UInt8.ofNat body.length := by
        rw [bodyLength, count, UInt8.ofNat_toNat]
      refine ⟨body, by omega, ?_, frameEq, ?_⟩
      · rw [bodyLength, count]
        exact length.toNat_lt
      · rw [headerSplit, bodySplit, lengthEq]
  · rintro ⟨body, covers, counted, rfl, rfl⟩
    simp only [long, bind, Except.bind, lengthHeader_append covers counted]
    exact framed_append body rest

/-- The readers accept the layouts of valid canonical frames and nothing else, and leave what stands
behind them. -/
theorem frame_eq_ok_iff :
    ByteReader.frame bytes = .ok (frame, rest) ↔
      frame.IsCanonical ∧ frame.validate = .ok () ∧ bytes = frame.layout ++ rest := by
  constructor
  · intro accepted
    match bytes with
    | [] => simp [ByteReader.frame, byte, bind, Except.bind] at accepted
    | start :: behind =>
      simp only [ByteReader.frame, byte, bind, Except.bind] at accepted
      split at accepted
      · next isSingle =>
        simp only [pure, Except.pure, Except.ok.injEq, Prod.mk.injEq] at accepted
        obtain ⟨rfl, rfl⟩ := accepted
        exact ⟨by simp [Frame.IsCanonical], rfl, by rw [isSingle]; rfl⟩
      · split at accepted
        · next isShort =>
          obtain ⟨body, two, rfl, rfl⟩ := framed_eq_ok_iff.1 accepted
          refine ⟨Frame.isCanonical_ofBody body, Frame.validate_ofBody_short two, ?_⟩
          rw [Frame.layout_ofBody_short two, isShort]
          simp
        · split at accepted
          · next isLong =>
            obtain ⟨body, covers, counted, rfl, rfl⟩ := long_eq_ok_iff.1 accepted
            refine ⟨Frame.isCanonical_ofBody body, Frame.validate_ofBody_long counted, ?_⟩
            rw [Frame.layout_ofBody_long covers, isLong]
            simp
          · simp [throw, throwThe, MonadExceptOf.throw] at accepted
  · rintro ⟨canonical, valid, rfl⟩
    have fits := Frame.validate_eq_ok_iff.1 valid
    have ofBody : Frame.ofBody frame.body = frame := by
      rw [Frame.ofBody_body, canonical.canonical_eq]
    -- control and long frames are one format, told apart by the length of the body
    have ofLong (covers : headerLength ≤ frame.body.length) (counted : frame.body.length < 256) :
        ByteReader.frame (frame.layout ++ rest) = .ok (frame, rest) := by
      have reading : long (UInt8.ofNat frame.body.length :: UInt8.ofNat frame.body.length ::
          longStart :: (frame.body ++ checksum frame.body :: stopByte :: rest))
            = .ok (frame, rest) :=
        long_eq_ok_iff.2 ⟨frame.body, covers, counted, ofBody.symm, rfl⟩
      have layout := Frame.layout_ofBody_long covers
      rw [ofBody] at layout
      simpa [layout, ByteReader.frame, byte, bind, Except.bind, longStart, singleByte, shortStart]
        using reading
    cases frame with
    | single => rfl
    | short c a => exact framed_append [c, a] rest
    | control c a ci => exact ofLong (Nat.le_refl 3) (by simp [Frame.body])
    | long c a ci data =>
      simp only [Frame.payload, maxDataLength] at fits
      exact ofLong (by simp [Frame.body, headerLength]) (by simp [Frame.body]; omega)

end ByteReader

namespace Frame

/-- A frame is read if the readers accept it, and the number of bytes it takes is what is missing
behind it. -/
theorem read_eq_ok_iff_rest {bytes : List UInt8} {consumed : Nat} {frame : Frame} :
    read bytes = .ok (consumed, frame) ↔
      ∃ rest, ByteReader.frame bytes = .ok (frame, rest) ∧
        consumed = bytes.length - rest.length := by
  rw [read]
  cases readEq : ByteReader.frame bytes with
  | error cause => simp [bind, Except.bind]
  | ok result =>
    obtain ⟨found, rest⟩ := result
    have length := ByteReader.length_eq_of_frame readEq
    have measured : found.encodedLength = bytes.length - rest.length := by omega
    simp only [bind, Except.bind, pure, Except.pure, Except.ok.injEq, Prod.mk.injEq, measured]
    constructor
    · rintro ⟨rfl, rfl⟩
      exact ⟨rest, ⟨rfl, rfl⟩, rfl⟩
    · rintro ⟨_, ⟨rfl, rfl⟩, rfl⟩
      exact ⟨rfl, rfl⟩

/-- A frame is read off every buffer that starts with its layout. -/
theorem read_layout_append {frame : Frame} (valid : frame.validate = .ok ())
    (suffix : List UInt8) :
    read (frame.layout ++ suffix) = .ok (frame.encodedLength, frame.canonical) := by
  refine read_eq_ok_iff_rest.2 ⟨suffix, ByteReader.frame_eq_ok_iff.2 ⟨?_, ?_, ?_⟩, ?_⟩
  · exact frame.isCanonical_canonical
  · rw [validate_canonical, valid]
  · rw [layout_canonical]
  · rw [List.length_append, length_layout]
    omega

/-- A frame that was read is valid. -/
theorem validate_of_read {bytes : List UInt8} {consumed : Nat} {frame : Frame}
    (accepted : read bytes = .ok (consumed, frame)) : frame.validate = .ok () := by
  obtain ⟨rest, readEq, _⟩ := read_eq_ok_iff_rest.1 accepted
  obtain ⟨_, valid, _⟩ := ByteReader.frame_eq_ok_iff.1 readEq
  exact valid

/-- A frame that was read stands at the front of the buffer, laid out. -/
theorem eq_layout_append_of_read {bytes : List UInt8} {consumed : Nat} {frame : Frame}
    (accepted : read bytes = .ok (consumed, frame)) :
    bytes = frame.layout ++ bytes.drop consumed := by
  obtain ⟨rest, readEq, measured⟩ := read_eq_ok_iff_rest.1 accepted
  obtain ⟨_, _, split⟩ := ByteReader.frame_eq_ok_iff.1 readEq
  have consumedEq : consumed = frame.layout.length := by
    rw [measured, split, List.length_append]
    omega
  rw [consumedEq, split, List.drop_left]

/-- Reading and laying out are inverse to each other. A frame is read off a buffer exactly if it is
canonical and valid and its wire bytes, as many as it announces, stand at the front; so a frame that
was read has the bytes it took. A valid frame in front of anything is read back in its canonical
form. The wire bytes are those that a cursor computes from their positions. -/
theorem read_inverts_encode :
    (∀ (bytes : List UInt8) (consumed : Nat) (frame : Frame),
      read bytes = .ok (consumed, frame) ↔
        frame.IsCanonical ∧ frame.validate = .ok () ∧ consumed = frame.encodedLength ∧
          consumed ≤ bytes.length ∧ frame.encode = .ok (bytes.take consumed)) ∧
    (∀ (bytes : List UInt8) (consumed : Nat) (frame : Frame),
      read bytes = .ok (consumed, frame) → frame.encode = .ok (bytes.take consumed)) ∧
    (∀ (frame : Frame) (suffix : List UInt8), frame.validate = .ok () →
      ∃ wire, frame.encode = .ok wire ∧ wire = (Cursor.start frame).rest ∧
        read (wire ++ suffix) = .ok (frame.encodedLength, frame.canonical)) := by
  have exact_image (bytes : List UInt8) (consumed : Nat) (frame : Frame) :
      read bytes = .ok (consumed, frame) ↔
        frame.IsCanonical ∧ frame.validate = .ok () ∧ consumed = frame.encodedLength ∧
          consumed ≤ bytes.length ∧ frame.encode = .ok (bytes.take consumed) := by
    constructor
    · intro accepted
      obtain ⟨rest, readEq, _⟩ := read_eq_ok_iff_rest.1 accepted
      obtain ⟨canonical, valid, _⟩ := ByteReader.frame_eq_ok_iff.1 readEq
      have consumedEq := consumed_eq_of_read accepted
      have front : bytes.take consumed = frame.layout := by
        rw [eq_layout_append_of_read accepted, consumedEq, ← length_layout, List.take_left]
      exact ⟨canonical, valid, consumedEq, consumed_le_of_read accepted,
        encode_eq_ok_iff.2 ⟨valid, front⟩⟩
    · rintro ⟨canonical, valid, rfl, _, encoded⟩
      obtain ⟨_, front⟩ := encode_eq_ok_iff.1 encoded
      have split : bytes = frame.layout ++ bytes.drop frame.encodedLength := by
        rw [← front, List.take_append_drop]
      have reading := read_layout_append valid (bytes.drop frame.encodedLength)
      rwa [← split, canonical.canonical_eq] at reading
  refine ⟨exact_image, ?_, ?_⟩
  · intro bytes consumed frame accepted
    exact ((exact_image bytes consumed frame).1 accepted).2.2.2.2
  · intro frame suffix valid
    exact ⟨frame.layout, encode_eq_ok_iff.2 ⟨valid, rfl⟩, (Cursor.rest_start frame).symm,
      read_layout_append valid suffix⟩

/-- A short frame in front of an acknowledgement, and a long frame without data in front of a start
byte. -/
theorem read_inverts_encode_at_short_and_empty_long :
    (read [0x10, 0x7B, 0x49, 0xC4, 0x16, 0xE5] = .ok (5, .short 0x7B 0x49) ∧
      (Frame.short 0x7B 0x49).encode = .ok [0x10, 0x7B, 0x49, 0xC4, 0x16]) ∧
    ((Frame.long 0x53 0xFE 0xBD []).validate = .ok () ∧
      ∃ wire, (Frame.long 0x53 0xFE 0xBD []).encode = .ok wire ∧
        wire = (Cursor.start (.long 0x53 0xFE 0xBD [])).rest ∧
        read (wire ++ [0x68]) = .ok (9, .control 0x53 0xFE 0xBD)) :=
  ⟨⟨rfl, read_inverts_encode.2.1 [0x10, 0x7B, 0x49, 0xC4, 0x16, 0xE5] 5 (.short 0x7B 0x49) rfl⟩,
    rfl, read_inverts_encode.2.2 (.long 0x53 0xFE 0xBD []) [0x68] rfl⟩

end Frame

end MeterBus
