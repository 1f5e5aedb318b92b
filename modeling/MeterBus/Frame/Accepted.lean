import MeterBus.Frame.Reader

/-!
# What the readers accept

Each reader succeeds on exactly one shape of input, and says which bytes stand behind it. Together
these lemmas show that a frame that was read takes at least one byte, which is why every loop that
takes frames off a buffer ends.
-/

namespace MeterBus

namespace ByteReader

variable {bytes rest body : List UInt8} {value : UInt8} {count : Nat} {frame : Frame}

/-- A byte is read off every input that is not empty. -/
theorem byte_eq_ok_iff : byte bytes = .ok (value, rest) ↔ bytes = value :: rest := by
  cases bytes <;> simp [byte]

/-- A body is read off every input that is long enough. -/
theorem take_eq_ok_iff :
    take count bytes = .ok (body, rest) ↔ bytes = body ++ rest ∧ body.length = count := by
  simp only [take, List.splitAt_eq]
  split
  · next enough =>
    simp only [Except.ok.injEq, Prod.mk.injEq]
    constructor
    · rintro ⟨rfl, rfl⟩
      exact ⟨(List.take_append_drop count bytes).symm, enough⟩
    · rintro ⟨rfl, rfl⟩
      simp
  · next short =>
    simp only [reduceCtorEq, false_iff]
    rintro ⟨rfl, rfl⟩
    simp at short

/-- A body counts only with its own checksum behind it. -/
theorem checksummed_eq_ok_iff :
    checksummed count bytes = .ok (body, rest) ↔
      bytes = body ++ checksum body :: rest ∧ body.length = count := by
  constructor
  · intro accepted
    simp only [checksummed, bind, Except.bind] at accepted
    split at accepted
    · simp at accepted
    · next taken takenEq =>
      obtain ⟨split, length⟩ := take_eq_ok_iff.1 takenEq
      split at accepted
      · simp at accepted
      · next received receivedEq =>
        have behind := byte_eq_ok_iff.1 receivedEq
        split at accepted
        · next same =>
          simp only [pure, Except.pure, Except.ok.injEq, Prod.mk.injEq] at accepted
          obtain ⟨rfl, rfl⟩ := accepted
          exact ⟨by rw [split, behind, same], length⟩
        · simp [throw, throwThe, MonadExceptOf.throw] at accepted
  · rintro ⟨rfl, rfl⟩
    have taken : take body.length (body ++ checksum body :: rest)
        = .ok (body, checksum body :: rest) := take_eq_ok_iff.2 ⟨rfl, rfl⟩
    simp [checksummed, bind, Except.bind, taken, byte, pure, Except.pure]

/-- A frame ends with the stop byte. -/
theorem stop_eq_ok_iff : stop bytes = .ok ((), rest) ↔ bytes = stopByte :: rest := by
  constructor
  · intro accepted
    simp only [stop, bind, Except.bind] at accepted
    split at accepted
    · simp at accepted
    · next found foundEq =>
      have split := byte_eq_ok_iff.1 foundEq
      split at accepted
      · next same =>
        simp only [pure, Except.pure, Except.ok.injEq, Prod.mk.injEq, true_and] at accepted
        rw [split, same, accepted]
      · simp [throw, throwThe, MonadExceptOf.throw] at accepted
  · rintro rfl
    simp [stop, bind, Except.bind, byte, pure, Except.pure]

/-- A framed body is followed by its checksum and the stop byte. -/
theorem framed_eq_ok_iff :
    framed count bytes = .ok (frame, rest) ↔
      ∃ body : List UInt8, body.length = count ∧ frame = .ofBody body ∧
        bytes = body ++ checksum body :: stopByte :: rest := by
  constructor
  · intro accepted
    simp only [framed, bind, Except.bind] at accepted
    split at accepted
    · simp at accepted
    · next taken takenEq =>
      obtain ⟨split, length⟩ := checksummed_eq_ok_iff.1 takenEq
      split at accepted
      · simp at accepted
      · next stopped stoppedEq =>
        have behind := stop_eq_ok_iff.1 stoppedEq
        simp only [pure, Except.pure, Except.ok.injEq, Prod.mk.injEq] at accepted
        exact ⟨taken.1, length, accepted.1.symm, by rw [split, behind, accepted.2]⟩
  · rintro ⟨body, rfl, rfl, rfl⟩
    have taken : checksummed body.length (body ++ checksum body :: stopByte :: rest)
        = .ok (body, stopByte :: rest) := checksummed_eq_ok_iff.2 ⟨rfl, rfl⟩
    simp [framed, bind, Except.bind, taken, stop, byte, pure, Except.pure]

/-- A length header repeats one length that covers the control, address and information bytes. -/
theorem lengthHeader_eq_ok_iff :
    lengthHeader bytes = .ok (count, rest) ↔
      ∃ length : UInt8, headerLength ≤ length.toNat ∧ count = length.toNat ∧
        bytes = length :: length :: longStart :: rest := by
  constructor
  · intro accepted
    match bytes with
    | [] => simp [lengthHeader, byte, bind, Except.bind] at accepted
    | [_] => simp [lengthHeader, byte, bind, Except.bind] at accepted
    | first :: second :: behind =>
      simp only [lengthHeader, byte, bind, Except.bind, pure, Except.pure] at accepted
      by_cases same : first = second
      · by_cases short : first.toNat < headerLength
        · simp [same ▸ short, same, throw, throwThe, MonadExceptOf.throw] at accepted
        · match behind with
          | [] => simp [same ▸ short, same] at accepted
          | start :: behind =>
            by_cases started : start = longStart
            · simp [same ▸ short, same, started] at accepted
              obtain ⟨rfl, rfl⟩ := accepted
              exact ⟨second, by rw [← same]; omega, rfl, by rw [same, started]⟩
            · simp [same ▸ short, same, started, throw, throwThe, MonadExceptOf.throw]
                at accepted
      · simp [same, throw, throwThe, MonadExceptOf.throw] at accepted
  · rintro ⟨length, covers, rfl, rfl⟩
    have covered : ¬ length.toNat < headerLength := by omega
    simp [lengthHeader, byte, bind, Except.bind, pure, Except.pure, covered]

/-- Two bytes make a short frame, which has three bytes around its body. -/
theorem encodedLength_ofBody_short (two : body.length = 2) :
    (Frame.ofBody body).encodedLength = body.length + 3 := by
  match body with
  | [_, _] => rfl

/-- Three bytes or more make a frame that has six bytes around its body. -/
theorem encodedLength_ofBody_long (covers : headerLength ≤ body.length) :
    (Frame.ofBody body).encodedLength = body.length + 6 := by
  match body with
  | [] | [_] | [_, _] => simp [headerLength] at covers
  | [_, _, _] => rfl
  | _ :: _ :: _ :: _ :: _ => simp [Frame.ofBody, Frame.encodedLength]; omega

/-- Reading a frame uses up as many bytes as the frame has when it is laid out. -/
theorem length_eq_of_frame (accepted : ByteReader.frame bytes = .ok (frame, rest)) :
    bytes.length = frame.encodedLength + rest.length := by
  match bytes with
  | [] => simp [ByteReader.frame, byte, bind, Except.bind] at accepted
  | start :: behind =>
    simp only [ByteReader.frame, byte, bind, Except.bind] at accepted
    split at accepted
    · simp only [pure, Except.pure, Except.ok.injEq, Prod.mk.injEq] at accepted
      obtain ⟨rfl, rfl⟩ := accepted
      simp [Frame.encodedLength]
      omega
    · split at accepted
      · obtain ⟨body, two, rfl, rfl⟩ := framed_eq_ok_iff.1 accepted
        simp [encodedLength_ofBody_short two]
        omega
      · split at accepted
        · simp only [long, bind, Except.bind] at accepted
          split at accepted
          · simp at accepted
          · next header headerEq =>
            obtain ⟨_, covers, count, headerSplit⟩ := lengthHeader_eq_ok_iff.1 headerEq
            obtain ⟨body, length, rfl, bodySplit⟩ := framed_eq_ok_iff.1 accepted
            have covered : headerLength ≤ body.length := by omega
            simp [headerSplit, bodySplit, encodedLength_ofBody_long covered]
            omega
        · simp [throw, throwThe, MonadExceptOf.throw] at accepted

end ByteReader

namespace Frame

/-- A frame that was read took as many bytes as it has when it is laid out. -/
theorem consumed_eq_of_read {bytes : List UInt8} {consumed : Nat} {frame : Frame}
    (accepted : read bytes = .ok (consumed, frame)) : consumed = frame.encodedLength := by
  simp only [read, bind, Except.bind] at accepted
  split at accepted
  · simp at accepted
  · simp only [pure, Except.pure, Except.ok.injEq, Prod.mk.injEq] at accepted
    rw [← accepted.1, accepted.2]

/-- A frame that was read stood in the buffer to its end. -/
theorem consumed_le_of_read {bytes : List UInt8} {consumed : Nat} {frame : Frame}
    (accepted : read bytes = .ok (consumed, frame)) : consumed ≤ bytes.length := by
  simp only [read, bind, Except.bind] at accepted
  split at accepted
  · simp at accepted
  · next read readEq =>
    have length := ByteReader.length_eq_of_frame readEq
    simp only [pure, Except.pure, Except.ok.injEq, Prod.mk.injEq] at accepted
    omega

/-- A frame that was read took at least one byte. -/
theorem read_consumed_pos {bytes : List UInt8} {consumed : Nat} {frame : Frame}
    (accepted : read bytes = .ok (consumed, frame)) : 0 < consumed := by
  rw [consumed_eq_of_read accepted]
  exact frame.encodedLength_pos

end Frame

end MeterBus
