import MeterBus.Proofs.Frame.Reading
import MeterBus.Proofs.Frame.RoundTrip

/-!
# What may come of an incomplete buffer

A buffer is incomplete where it is cut from a frame: `incomplete_iff_cut_from_frame` gives a valid
frame for every place at which a reader may run out of bytes. One kind of buffer is incomplete
without being cut from a frame. A first length byte below the minimum is refused only when it is
repeated.
-/

namespace MeterBus

namespace ByteReader

variable {bytes : List UInt8} {missing : Option Nat} {count : Nat}

/-- What is missing of a framed body can be supplied. -/
theorem Framing.completion (framing : Framing count bytes (.error (.incomplete missing))) :
    ∃ body rest : List UInt8, body.length = count ∧ rest ≠ [] ∧
      body ++ [checksum body, stopByte] = bytes ++ rest := by
  cases framing with
  | part short =>
    -- any bytes will do for the rest of the body
    let padding : List UInt8 := List.replicate (count - bytes.length) 0
    refine ⟨bytes ++ padding, padding ++ [checksum (bytes ++ padding), stopByte], ?_, by simp, ?_⟩
    · rw [List.length_append, List.length_replicate]
      omega
    · rw [List.append_assoc]
  | bare whole => exact ⟨bytes, [checksum bytes, stopByte], whole, by simp, rfl⟩
  | @unstopped body whole => exact ⟨body, [stopByte], whole, by simp, by simp⟩

/-- What is missing of a header can be supplied, unless its first length byte is too low. -/
theorem Header.completion (header : Header bytes (.error (.incomplete missing))) :
    (∃ length : UInt8, length.toNat < headerLength ∧ bytes = [length]) ∨
      ∃ (length : UInt8) (rest : List UInt8), headerLength ≤ length.toNat ∧
        [length, length, longStart] = bytes ++ rest := by
  cases header with
  | empty => exact .inr ⟨3, [3, 3, longStart], Nat.le_refl 3, rfl⟩
  | @once length =>
    by_cases low : length.toNat < headerLength
    · exact .inl ⟨length, low, rfl⟩
    · exact .inr ⟨length, [length, longStart], Nat.le_of_not_lt low, rfl⟩
  | @twice length covers => exact .inr ⟨length, [longStart], covers, rfl⟩

end ByteReader

namespace Frame

variable {bytes rest : List UInt8} {frame : Frame} {missing : Option Nat}

/-- Every frame that fits the wire format has at most 261 bytes. -/
theorem encodedLength_le_of_validate (valid : frame.validate = .ok ()) :
    frame.encodedLength ≤ 261 := by
  have fits := validate_eq_ok_iff.1 valid
  cases frame <;> simp only [encodedLength, payload, maxDataLength] at fits ⊢ <;> omega

/-- What is missing of a frame can be supplied, unless all that there is of it is a length byte that
is too low. -/
theorem completion_of_read (short : read bytes = .error (.incomplete missing)) :
    (∃ (frame : Frame) (rest : List UInt8), frame.validate = .ok () ∧ rest ≠ [] ∧
        frame.layout = bytes ++ rest) ∨
      ∃ length : UInt8, length.toNat < headerLength ∧ bytes = [longStart, length] := by
  have standing := ByteReader.frame_eq_iff.1 (read_eq_error_iff.1 short)
  cases standing with
  | empty => exact .inl ⟨.single, [singleByte], rfl, by simp, rfl⟩
  | headless header =>
    obtain ⟨length, low, rfl⟩ | ⟨length, rest, covers, split⟩ := header.completion
    · exact .inr ⟨length, low, rfl⟩
    · let body : List UInt8 := List.replicate length.toNat 0
      have opens : Opens [longStart, length, length, longStart] body.length := by
        rw [List.length_replicate]
        exact .long covers
      refine .inl ⟨.ofBody body, rest ++ (body ++ [checksum body, stopByte]),
        opens.validate_ofBody, by simp, ?_⟩
      rw [opens.layout_ofBody, split, List.cons_append, List.cons_append, List.append_assoc]
  | @opened opening bytes count _ opens framing =>
    obtain ⟨body, rest, rfl, some, split⟩ := framing.completion
    refine .inl ⟨.ofBody body, rest, opens.validate_ofBody, some, ?_⟩
    rw [opens.layout_ofBody, split, List.append_assoc]

/-- A frame that is cut is incomplete, wherever it is cut. -/
theorem read_of_cut (valid : frame.validate = .ok ()) (some : rest ≠ [])
    (cut : frame.layout = bytes ++ rest) : ∃ missing, read bytes = .error (.incomplete missing) := by
  -- a final verdict would be that on the whole frame, which takes more bytes than there are
  refine Classical.byContradiction fun decided => ?_
  have whole := read_layout_append valid []
  rw [List.append_nil, cut, read_append_of_decided (not_exists.1 decided) rest] at whole
  have fits := consumed_le_of_read whole
  have left := List.length_pos_iff.2 some
  rw [← length_layout, cut, List.length_append] at fits
  omega

/-- A buffer is incomplete exactly if it is the beginning of the wire bytes of some valid frame and
not all of them, or the first length byte of a frame of variable length that is too low. No buffer
that is as long as the longest frame is incomplete. -/
theorem incomplete_iff_cut_from_frame :
    (∀ bytes : List UInt8,
      (∃ missing, read bytes = .error (.incomplete missing)) ↔
        (∃ frame wire, encode frame = .ok wire ∧ bytes <+: wire ∧ bytes ≠ wire) ∨
          ∃ length : UInt8, length.toNat < headerLength ∧ bytes = [longStart, length]) ∧
    (∀ (frame : Frame) (wire bytes : List UInt8), frame.encode = .ok wire → bytes <+: wire →
      bytes ≠ wire → ∃ missing, read bytes = .error (.incomplete missing)) ∧
    (∀ bytes : List UInt8, 261 ≤ bytes.length →
      ∀ missing, read bytes ≠ .error (.incomplete missing)) := by
  have of_cut (frame : Frame) (wire bytes : List UInt8) (encoded : frame.encode = .ok wire)
      (beginning : bytes <+: wire) (proper : bytes ≠ wire) :
      ∃ missing, read bytes = .error (.incomplete missing) := by
    obtain ⟨valid, rfl⟩ := encode_eq_ok_iff.1 encoded
    obtain ⟨rest, cut⟩ := beginning
    have some : rest ≠ [] := by
      rintro rfl
      exact proper (by rw [← cut, List.append_nil])
    exact read_of_cut valid some cut.symm
  refine ⟨?_, of_cut, ?_⟩
  · intro bytes
    constructor
    · rintro ⟨missing, short⟩
      obtain ⟨frame, rest, valid, some, cut⟩ | low := completion_of_read short
      · refine .inl ⟨frame, frame.layout, encode_eq_ok_iff.2 ⟨valid, rfl⟩, ⟨rest, cut.symm⟩, ?_⟩
        rw [cut]
        simpa using some.symm
      · exact .inr low
    · rintro (⟨frame, wire, encoded, beginning, proper⟩ | ⟨length, low, rfl⟩)
      · exact of_cut frame wire bytes encoded beginning proper
      · exact ⟨some 1, rfl⟩
  · intro bytes long missing short
    obtain ⟨frame, rest, valid, some, cut⟩ | ⟨length, _, rfl⟩ := completion_of_read short
    · have longest := encodedLength_le_of_validate valid
      have left := List.length_pos_iff.2 some
      rw [← length_layout, cut, List.length_append] at longest
      omega
    · simp at long

/-- A control frame that is cut behind its second start byte, and the longest buffer that may have
been the beginning of a frame. -/
theorem incomplete_iff_cut_from_frame_at_control_and_longest :
    ((control 0x53 0xFE 0xBD).encode = .ok [0x68, 3, 3, 0x68, 0x53, 0xFE, 0xBD, 0x0E, 0x16] ∧
      [0x68, 3, 3, 0x68] <+: [0x68, 3, 3, 0x68, 0x53, 0xFE, 0xBD, 0x0E, 0x16] ∧
      ([0x68, 3, 3, 0x68] : List UInt8) ≠ [0x68, 3, 3, 0x68, 0x53, 0xFE, 0xBD, 0x0E, 0x16] ∧
      ∃ missing, read [0x68, 3, 3, 0x68] = .error (.incomplete missing)) ∧
    (261 ≤ ([0x68, 0xFF, 0xFF, 0x68] ++ List.replicate 257 0 : List UInt8).length ∧
      ∀ missing, read ([0x68, 0xFF, 0xFF, 0x68] ++ List.replicate 257 0)
        ≠ .error (.incomplete missing)) := by
  have long : 261 ≤ ([0x68, 0xFF, 0xFF, 0x68] ++ List.replicate 257 0 : List UInt8).length := by
    rw [List.length_append, List.length_replicate]
    decide
  exact ⟨⟨rfl, by decide, by decide,
      incomplete_iff_cut_from_frame.2.1 (.control 0x53 0xFE 0xBD)
        [0x68, 3, 3, 0x68, 0x53, 0xFE, 0xBD, 0x0E, 0x16] [0x68, 3, 3, 0x68] rfl (by decide)
        (by decide)⟩,
    long, incomplete_iff_cut_from_frame.2.2 _ long⟩

end Frame

end MeterBus
