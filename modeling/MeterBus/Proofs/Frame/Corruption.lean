import MeterBus.Proofs.Frame.Refusal

/-!
# A wrong byte in a frame

A frame that arrives with one byte changed is refused, unless the change is in its first byte, which
decides where everything else is read. `Frame.corruption` says for which cause. The two length bytes
guard each other, the two start bytes and the stop byte stand at fixed places, and a body with one
byte changed has another checksum.
-/

namespace MeterBus

section

variable {bytes : List UInt8} {byte : UInt8} {index : Nat}

/-- The first byte counts like every other. -/
theorem checksum_cons (byte : UInt8) (bytes : List UInt8) :
    checksum (byte :: bytes) = byte + checksum bytes := by
  rw [checksum, List.foldl_cons, UInt8.add_comm, List.foldl_assoc]
  rfl

/-- A byte that is replaced is taken out of the sum and the other one put in. -/
theorem checksum_set_add (byte : UInt8) (inside : index < bytes.length) :
    checksum (bytes.set index byte) + bytes[index] = checksum bytes + byte := by
  induction bytes generalizing index with
  | nil => exact absurd inside (Nat.not_lt_zero index)
  | cons first rest inductionHypothesis =>
    cases index with
    | zero =>
      simp only [List.set_cons_zero, List.getElem_cons_zero, checksum_cons]
      ac_rfl
    | succ index =>
      have behind := inductionHypothesis (Nat.lt_of_succ_lt_succ inside)
      simp only [List.set_cons_succ, List.getElem_cons_succ, checksum_cons]
      rw [UInt8.add_assoc, behind, UInt8.add_assoc]

/-- No two bodies that differ in one byte have the same checksum. -/
theorem checksum_set_ne (inside : index < bytes.length) (differs : bytes[index] ≠ byte) :
    checksum (bytes.set index byte) ≠ checksum bytes := by
  intro same
  have replaced := checksum_set_add byte inside
  rw [same, UInt8.add_right_inj] at replaced
  exact differs replaced

end

namespace Frame

/-- The cause for which a frame is refused if its opening, which announces this length, has another
byte at a position behind the first. -/
def openingCorruption (length : UInt8) (position : Nat) (byte : UInt8) : FrameError :=
  match position with
  | 1 => .inconsistentLength byte length
  | 2 => .inconsistentLength length byte
  | _ => .unexpectedStart byte

/-- The cause for which a frame is refused if another byte stands at a position behind the first.
Only control and long frames open with more than one byte. -/
def corruption (frame : Frame) (position : Nat) (byte : UInt8) : FrameError :=
  if position < frame.opening.length then
    openingCorruption (UInt8.ofNat frame.body.length) position byte
  else if position + 1 = frame.encodedLength then
    .missingStop byte
  else if position + 2 = frame.encodedLength then
    .malformedChecksum (checksum frame.body) byte
  else
    let damaged := frame.body.set (position - frame.opening.length) byte
    .malformedChecksum (checksum damaged) (checksum frame.body)

variable {frame : Frame} {opening body wire : List UInt8} {byte : UInt8} {count position : Nat}

/-- A frame with fields is laid out as its opening, its body, the checksum and the stop byte. -/
theorem layout_of_fields (fielded : frame ≠ .single) :
    frame.layout = frame.opening ++ (frame.body ++ [checksum frame.body, stopByte]) := by
  cases frame with
  | single => exact absurd rfl fielded
  | _ => simp [layout, closing]

/-- The opening of a valid frame with fields announces its body. -/
theorem opens_of_validate (valid : frame.validate = .ok ()) (fielded : frame ≠ .single) :
    Opens frame.opening frame.body.length := by
  have fits := validate_eq_ok_iff.1 valid
  cases frame with
  | single => exact absurd rfl fielded
  | short c a => exact .short
  | control c a ci => exact @Opens.long 3 (Nat.le_refl 3)
  | long c a ci data =>
    simp only [payload, maxDataLength] at fits
    have announced : (lengthByte data.length).toNat = data.length + headerLength := by
      rw [lengthByte, UInt8.toNat_ofNat']
      exact Nat.mod_eq_of_lt (by simp only [headerLength]; omega)
    have opens : Opens (long c a ci data).opening (lengthByte data.length).toNat :=
      .long (by rw [announced]; exact Nat.le_add_left ..)
    rwa [announced] at opens

/-- A wrong byte in an opening, behind the first, is refused with the byte that does not agree with
it. -/
theorem read_of_wrong_opening (opens : Opens opening count) (behind : 1 ≤ position)
    (inside : position < opening.length) (differs : opening[position] ≠ byte)
    (rest : List UInt8) :
    read (opening.set position byte ++ rest)
      = .error (.invalid (openingCorruption (UInt8.ofNat count) position byte)) := by
  rw [read_eq_invalid_iff]
  cases opens with
  | short =>
    rw [List.length_singleton] at inside
    omega
  | @long length covers =>
    rw [UInt8.ofNat_toNat]
    match position with
    | 0 => exact absurd behind (Nat.not_succ_le_zero 0)
    | 1 => exact ⟨[longStart, byte], length, longStart :: rest, rfl, .unequal differs⟩
    | 2 => exact ⟨[longStart, length], byte, longStart :: rest, rfl, .unequal differs.symm⟩
    | 3 => exact ⟨[longStart, length, length], byte, rest, rfl, .unstarted covers differs.symm⟩
    | later + 4 =>
      simp only [List.length_cons, List.length_nil] at inside
      omega

/-- A wrong byte in a body is refused with the checksum. -/
theorem read_of_wrong_body (opens : Opens opening body.length) (inside : position < body.length)
    (differs : body[position] ≠ byte) (rest : List UInt8) :
    read (opening ++ (body.set position byte ++ checksum body :: rest)) =
      .error (.invalid (.malformedChecksum (checksum (body.set position byte))
        (checksum body))) := by
  have damaged : Opens opening (body.set position byte).length := by rwa [List.length_set]
  exact read_eq_invalid_iff.2 ⟨opening ++ body.set position byte, checksum body, rest, by simp,
    .mismatched damaged (checksum_set_ne inside differs).symm⟩

/-- One wrong byte behind the first byte of a frame with fields is refused, whatever follows the
frame. In a control or long frame, the length bytes at positions 1 and 2 are then unequal and the
byte at position 3 is no start byte. The last byte of every such frame is then no stop byte. Every
other byte is one of the body or its checksum, which then do not match. -/
theorem wrong_byte_is_refused (encoded : frame.encode = .ok wire) (fielded : frame ≠ .single)
    (behind : 1 ≤ position) (inside : position < wire.length) (differs : wire[position] ≠ byte)
    (suffix : List UInt8) :
    read (wire.set position byte ++ suffix)
      = .error (.invalid (frame.corruption position byte)) := by
  obtain ⟨valid, rfl⟩ := encode_eq_ok_iff.1 encoded
  have opens := opens_of_validate valid fielded
  have length : frame.encodedLength = frame.opening.length + (frame.body.length + 2) := by
    rw [← length_layout, layout_of_fields fielded]
    simp
  simp only [layout_of_fields fielded] at inside differs ⊢
  simp only [corruption, length]
  by_cases ofOpening : position < frame.opening.length
  · rw [List.getElem_append_left ofOpening] at differs
    rw [List.set_append_left _ _ ofOpening, List.append_assoc, if_pos ofOpening]
    exact read_of_wrong_opening opens behind ofOpening differs _
  · obtain ⟨index, rfl⟩ := Nat.exists_eq_add_of_le (Nat.le_of_not_lt ofOpening)
    simp only [List.length_append, List.length_cons, List.length_nil] at inside
    rw [List.getElem_append_right (by omega)] at differs
    rw [List.set_append_right _ _ (by omega), List.append_assoc, if_neg ofOpening]
    simp only [Nat.add_sub_cancel_left] at differs ⊢
    by_cases ofBody : index < frame.body.length
    · rw [List.getElem_append_left ofBody] at differs
      rw [List.set_append_left _ _ ofBody, List.append_assoc, if_neg (by omega), if_neg (by omega)]
      exact read_of_wrong_body opens ofBody differs _
    · obtain ⟨place, rfl⟩ := Nat.exists_eq_add_of_le (Nat.le_of_not_lt ofBody)
      rw [List.getElem_append_right (by omega)] at differs
      rw [List.set_append_right _ _ (by omega), List.append_assoc]
      simp only [Nat.add_sub_cancel_left] at differs ⊢
      rw [read_eq_invalid_iff]
      match place with
      | 0 =>
        rw [if_neg (by omega), if_pos (by omega)]
        exact ⟨frame.opening ++ frame.body, byte, stopByte :: suffix, by simp,
          .mismatched opens differs.symm⟩
      | 1 =>
        rw [if_pos (by omega)]
        exact ⟨frame.opening ++ (frame.body ++ [checksum frame.body]), byte, suffix, by simp,
          .unstopped opens differs.symm⟩
      | later + 2 => omega

/-- A first length byte that would end the frame earlier, and a data byte that would start one. -/
theorem wrong_byte_is_refused_at_length_and_data :
    let frame : Frame := .long 0x08 0x05 0x72 [0x10]
    let wire : List UInt8 := [0x68, 4, 4, 0x68, 0x08, 0x05, 0x72, 0x10, 0x8F, 0x16]
    frame.encode = .ok wire ∧ frame ≠ .single ∧
      (1 < wire.length ∧ wire[1]? ≠ some 3 ∧ frame.corruption 1 3 = .inconsistentLength 3 4 ∧
        read (wire.set 1 3 ++ [0xE5]) = .error (.invalid (frame.corruption 1 3))) ∧
      (7 < wire.length ∧ wire[7]? ≠ some 0xE5 ∧
        frame.corruption 7 0xE5 = .malformedChecksum 0x64 0x8F ∧
        read (wire.set 7 0xE5 ++ []) = .error (.invalid (frame.corruption 7 0xE5))) := by
  intro frame wire
  have encoded : frame.encode = .ok wire := rfl
  have fielded : frame ≠ .single := by decide
  exact ⟨encoded, fielded,
    ⟨by decide, by decide, rfl,
      wrong_byte_is_refused encoded fielded (by decide) (by decide) (by decide) [0xE5]⟩,
    ⟨by decide, by decide, rfl,
      wrong_byte_is_refused encoded fielded (by decide) (by decide) (by decide) []⟩⟩

end Frame

end MeterBus
