import MeterBus.Proofs.Frame.Corruption

/-!
# A frame sent to another address

A frame that is sent to another address is the same frame in every other respect. On the wire it
differs in the byte of the address and in the checksum, which follows it: what the address byte
gains, the checksum gains.
-/

namespace MeterBus.Frame

variable {frame other : Frame} {address : UInt8}

/-- The control information field, if the format has one. -/
def information? : Frame → Option UInt8
  | .control _ _ ci | .long _ _ ci _ => some ci
  | _ => none

/-- The position of the address byte in the wire form of a frame with fields. -/
def addressPosition : Frame → Nat
  | .short .. => 2
  | _ => 5

/-- The position of the checksum in the wire form of a frame with fields. -/
def checksumPosition (frame : Frame) : Nat :=
  frame.encodedLength - 2

/-- A frame that is another one sent to an address. -/
structure IsReaddressed (frame other : Frame) (address : UInt8) : Prop where
  kind : other.kind = frame.kind
  control : other.control? = frame.control?
  information : other.information? = frame.information?
  payload : other.payload = frame.payload
  encodedLength : other.encodedLength = frame.encodedLength
  validate : other.validate = frame.validate
  address : other.address? = some address

/-- The wire form of a frame, and the one of the same frame sent to an address: in place of the
former address stands the other one, and the checksum has changed by their difference. All other
bytes are the same. -/
structure IsRewritten (frame : Frame) (address : UInt8) (wire rewritten : List UInt8) : Prop where
  length : rewritten.length = wire.length
  /-- The two bytes that are not the same. -/
  replaced : ∃ former sum, frame.address? = some former ∧
    wire[frame.addressPosition]? = some former ∧
    rewritten[frame.addressPosition]? = some address ∧
    wire[frame.checksumPosition]? = some sum ∧
    rewritten[frame.checksumPosition]? = some (sum + address - former)
  kept : ∀ position, position ≠ frame.addressPosition → position ≠ frame.checksumPosition →
    rewritten[position]? = wire[position]?

/-- The last address that a frame is sent to counts. -/
@[simp] theorem withAddress_withAddress (frame : Frame) (address former : UInt8) :
    (frame.withAddress former).withAddress address = frame.withAddress address := by
  cases frame <;> rfl

/-- The canonical form of a frame sent to an address is the canonical form sent there. -/
theorem canonical_withAddress (frame : Frame) (address : UInt8) :
    (frame.withAddress address).canonical = frame.canonical.withAddress address := by
  rcases frame with _ | _ | _ | ⟨_, _, _, _ | _⟩ <;> rfl

/-- A frame with fields is sent to an address with everything else it has. -/
theorem isReaddressed_withAddress (fielded : frame ≠ .single) (address : UInt8) :
    IsReaddressed frame (frame.withAddress address) address := by
  cases frame with
  | single => exact absurd rfl fielded
  | _ => constructor <;> rfl

/-- A frame with fields opens the same, whatever its address. -/
theorem opening_withAddress (frame : Frame) (address : UInt8) :
    (frame.withAddress address).opening = frame.opening := by
  cases frame <;> rfl

/-- The address is the second byte of a body. -/
theorem body_withAddress (frame : Frame) (address : UInt8) :
    (frame.withAddress address).body = frame.body.set 1 address := by
  cases frame <;> rfl

/-- The address of a frame stands in its body. -/
theorem exists_address (fielded : frame ≠ .single) :
    ∃ inside : 1 < frame.body.length, frame.address? = some frame.body[1] := by
  cases frame with
  | single => exact absurd rfl fielded
  | _ => exact ⟨by simp [body], rfl⟩

/-- Where the body of a frame with fields stands in its wire form. -/
theorem positions_of_fields (fielded : frame ≠ .single) :
    frame.addressPosition = frame.opening.length + 1 ∧
      frame.checksumPosition = frame.opening.length + frame.body.length := by
  have length : frame.encodedLength = frame.opening.length + (frame.body.length + 2) := by
    rw [← length_layout, layout_of_fields fielded]
    simp
  refine ⟨?_, by rw [checksumPosition, length]; omega⟩
  cases frame with
  | single => exact absurd rfl fielded
  | _ => rfl

/-- The layout of a frame with fields has two bytes set when the frame is sent to another address. -/
theorem layout_withAddress (fielded : frame ≠ .single) (address : UInt8) :
    (frame.withAddress address).layout =
      (frame.layout.set (frame.opening.length + 1) address).set
        (frame.opening.length + frame.body.length) (checksum (frame.body.set 1 address)) := by
  obtain ⟨inside, _⟩ := exists_address fielded
  have fieldedThen : frame.withAddress address ≠ .single := by
    cases frame with
    | single => exact absurd rfl fielded
    | _ => exact Frame.noConfusion
  rw [layout_of_fields fielded, layout_of_fields fieldedThen, opening_withAddress, body_withAddress,
    List.set_append_right _ _ (by omega), List.set_append_right _ _ (by omega),
    Nat.add_sub_cancel_left, Nat.add_sub_cancel_left, List.set_append_left _ _ inside,
    List.set_append_right _ _ (by simp), List.length_set, Nat.sub_self]
  rfl

/-- The wire form of a frame with fields is rewritten in two places when the frame is sent to another
address. -/
theorem isRewritten_layout (fielded : frame ≠ .single) (address : UInt8) :
    IsRewritten frame address frame.layout (frame.withAddress address).layout := by
  obtain ⟨inside, addressEq⟩ := exists_address fielded
  obtain ⟨ofAddress, ofChecksum⟩ := positions_of_fields fielded
  have sumEq : checksum (frame.body.set 1 address) =
      checksum frame.body + address - frame.body[1] := by
    rw [← checksum_set_add address inside, UInt8.add_sub_cancel]
  have atAddress : frame.layout[frame.addressPosition]? = some frame.body[1] := by
    rw [layout_of_fields fielded, ofAddress, List.getElem?_append_right (by omega),
      Nat.add_sub_cancel_left, List.getElem?_append_left inside, List.getElem?_eq_getElem inside]
  have atChecksum : frame.layout[frame.checksumPosition]? = some (checksum frame.body) := by
    rw [layout_of_fields fielded, ofChecksum, List.getElem?_append_right (by omega),
      Nat.add_sub_cancel_left, List.getElem?_append_right (Nat.le_refl _), Nat.sub_self]
    rfl
  obtain ⟨addressInside, _⟩ := List.getElem?_eq_some_iff.1 atAddress
  obtain ⟨checksumInside, _⟩ := List.getElem?_eq_some_iff.1 atChecksum
  have apart : frame.checksumPosition ≠ frame.addressPosition := by omega
  rw [layout_withAddress fielded, ← ofAddress, ← ofChecksum, sumEq]
  refine ⟨by simp, ⟨_, _, addressEq, atAddress, ?_, atChecksum, ?_⟩, ?_⟩
  · rw [List.getElem?_set_ne apart, List.getElem?_set_self addressInside]
  · rw [List.getElem?_set_self (by simpa using checksumInside)]
  · intro position notAddress notChecksum
    rw [List.getElem?_set_ne notChecksum.symm, List.getElem?_set_ne notAddress.symm]

/-- A frame with fields that is sent to another address is the same in everything else. If it is
valid, so are both wire forms, which differ at the position of the address and at the position of the
checksum at most, and the other one is read, in front of anything, as the canonical form of the frame
with the other address. A single character stays what it is, and of several addresses the last one
counts. -/
theorem readdressing_is_local :
    (∀ (frame : Frame) (address : UInt8), frame ≠ .single →
      IsReaddressed frame (frame.withAddress address) address ∧
      (frame.validate = .ok () →
        ∃ wire rewritten, frame.encode = .ok wire ∧
          (frame.withAddress address).encode = .ok rewritten ∧
          IsRewritten frame address wire rewritten ∧
          ∀ suffix, read (rewritten ++ suffix) =
            .ok (rewritten.length, frame.canonical.withAddress address))) ∧
    (∀ address : UInt8, Frame.single.withAddress address = .single) ∧
    ∀ (frame : Frame) (address former : UInt8),
      (frame.withAddress former).withAddress address = frame.withAddress address := by
  refine ⟨fun frame address fielded => ?_, fun _ => rfl, withAddress_withAddress⟩
  have readdressed := isReaddressed_withAddress fielded address
  refine ⟨readdressed, fun valid => ?_⟩
  have validThen : (frame.withAddress address).validate = .ok () := readdressed.validate.trans valid
  refine ⟨frame.layout, (frame.withAddress address).layout, encode_eq_ok_iff.2 ⟨valid, rfl⟩,
    encode_eq_ok_iff.2 ⟨validThen, rfl⟩, isRewritten_layout fielded address, fun suffix => ?_⟩
  rw [read_layout_append validThen suffix, canonical_withAddress, length_layout]

/-- A long frame without data, whose checksum wraps around when it is sent to a lower address. -/
theorem readdressing_is_local_at_empty_long :
    let frame : Frame := .long 0x53 0xFE 0xBD []
    frame ≠ .single ∧ IsReaddressed frame (.long 0x53 0x01 0xBD []) 0x01 ∧
      frame.validate = .ok () ∧
      ∃ wire rewritten, frame.encode = .ok wire ∧
        (Frame.long 0x53 0x01 0xBD []).encode = .ok rewritten ∧
        IsRewritten frame 0x01 wire rewritten ∧
        ∀ suffix, read (rewritten ++ suffix) = .ok (rewritten.length, .control 0x53 0x01 0xBD) := by
  intro frame
  have fielded : frame ≠ .single := by decide
  have valid : frame.validate = .ok () := rfl
  obtain ⟨readdressed, encoded⟩ := readdressing_is_local.1 frame 0x01 fielded
  exact ⟨fielded, readdressed, valid, encoded valid⟩

end MeterBus.Frame
