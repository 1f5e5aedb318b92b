import Mathlib.Algebra.GroupWithZero.Nat
import MeterBus.Codec
import MeterBus.Proofs.Frame.Corruption

/-!
# Three ways to the wire form

The bytes of a frame come from a cursor, which computes each of them from its position, from
`Frame.encode`, which takes them all off a cursor at once, and from a codec, which puts them behind
what stands in a send buffer. The format itself is stated here without any of them, as `Frame.IsWire`, and
`Codec.encodings_agree` says that all three keep to it.
-/

namespace MeterBus

/-- The sum of bytes as a number of any size. -/
def byteSum (bytes : List UInt8) : Nat :=
  (bytes.map UInt8.toNat).sum

/-- The checksum is the sum modulo 256. -/
theorem toNat_checksum (bytes : List UInt8) : (checksum bytes).toNat = byteSum bytes % 256 := by
  induction bytes with
  | nil => rfl
  | cons byte rest inductionHypothesis =>
    rw [checksum_cons, UInt8.toNat_add, inductionHypothesis, Nat.add_mod_mod]
    rfl

namespace Frame

/-- The wire form of a frame, by the rules of the format. A length byte counts modulo 256, so that
there is one for oversized data as well. -/
inductive IsWire : Frame → List UInt8 → Prop
  | single : IsWire .single [0xE5]
  | short {c a cs : UInt8} (sum : cs.toNat = byteSum [c, a] % 256) :
      IsWire (.short c a) [0x10, c, a, cs, 0x16]
  | control {c a ci cs : UInt8} (sum : cs.toNat = byteSum [c, a, ci] % 256) :
      IsWire (.control c a ci) [0x68, 3, 3, 0x68, c, a, ci, cs, 0x16]
  | long {c a ci l cs : UInt8} {data : List UInt8} (length : l.toNat = (data.length + 3) % 256)
      (sum : cs.toNat = byteSum (c :: a :: ci :: data) % 256) :
      IsWire (.long c a ci data) ([0x68, l, l, 0x68, c, a, ci] ++ data ++ [cs, 0x16])

/-- The layout of a frame keeps to the rules of the format. -/
theorem isWire_layout (frame : Frame) : IsWire frame frame.layout := by
  cases frame with
  | single => exact .single
  | short c a => exact .short (toNat_checksum [c, a])
  | control c a ci => exact .control (toNat_checksum [c, a, ci])
  | long c a ci data =>
    have counted : (lengthByte data.length).toNat = (data.length + 3) % 256 := UInt8.toNat_ofNat'
    have layoutEq : (Frame.long c a ci data).layout =
        [0x68, lengthByte data.length, lengthByte data.length, 0x68, c, a, ci] ++ data ++
          [checksum (c :: a :: ci :: data), 0x16] := by
      simp [layout, opening, body, closing, longStart, stopByte]
    rw [layoutEq]
    exact .long counted (toNat_checksum (c :: a :: ci :: data))

/-- A frame has wire bytes, those of its layout, unless it has more data than a length byte can
count. -/
theorem encode_eq (frame : Frame) :
    frame.encode =
      if frame.payload.length ≤ maxDataLength then .ok frame.layout
      else .error (.dataTooLong frame.payload.length) := by
  split
  · next fits => exact encode_eq_ok_iff.2 ⟨validate_eq_ok_iff.2 fits, rfl⟩
  · next exceeds =>
    cases frame with
    | long c a ci data =>
      have refused : (Frame.long c a ci data).validate = .error (.dataTooLong data.length) :=
        if_pos (Nat.lt_of_not_le exceeds)
      rw [encode, refused]
      rfl
    | _ => exact absurd (Nat.zero_le _) exceeds

end Frame

/-- Successive slices of some bytes of the given sizes, each with the number of bytes behind it. -/
def slices : List Nat → List UInt8 → List (List UInt8 × Nat)
  | [], _ => []
  | count :: counts, bytes =>
    (bytes.take count, bytes.length - count) :: slices counts (bytes.drop count)

namespace Cursor

/-- The cursor behind successive cuts of the given sizes. -/
def behind (counts : List Nat) (cursor : Cursor) : Cursor :=
  counts.foldl (fun cursor count => (cursor.take count).2) cursor

/-- What some bytes in front of a cursor mean for the cursor. -/
structure Faces (cursor : Cursor) (bytes : List UInt8) : Prop where
  /-- A cursor never stands behind the end, so that the bytes that are left can be counted. -/
  position_le : cursor.position ≤ cursor.length
  left_eq : cursor.left = bytes.length
  take_fst (count : Nat) : (cursor.take count).1 = bytes.take count
  /-- A cursor that has nothing to give stays where it is. -/
  exhausted : bytes = [] → cursor.next? = none ∧ ∀ count, cursor.take count = ([], cursor)

variable {cursor : Cursor}

/-- A cursor on a wire form behaves as the bytes ahead of it say. -/
theorem OnWire.faces (onWire : cursor.OnWire) : cursor.Faces cursor.ahead where
  position_le := onWire.position_le
  left_eq := onWire.left_eq
  take_fst count := (onWire.take count).1
  exhausted := by
    intro done
    have none : cursor.next? = none := by
      obtain ⟨_, none⟩ | ⟨_, _, _, aheadEq, _⟩ := onWire.next?
      · exact none
      · exact absurd (done ▸ aheadEq) (List.cons_ne_nil _ _).symm
    refine ⟨none, fun count => ?_⟩
    cases count with
    | zero => rfl
    | succ count => rw [Cursor.take, none]

/-- Successive cuts are slices of the bytes ahead. -/
theorem OnWire.cuts (onWire : cursor.OnWire) (counts : List Nat) :
    cursor.cuts counts = slices counts cursor.ahead := by
  induction counts generalizing cursor with
  | nil => rfl
  | cons count counts inductionHypothesis =>
    obtain ⟨taken, rest, later⟩ := onWire.take count
    simp only [Cursor.cuts, slices, inductionHypothesis later, later.left_eq, taken, rest,
      List.length_drop]

/-- Behind successive cuts, the bytes are ahead that the cuts have left. -/
theorem OnWire.behind (onWire : cursor.OnWire) (counts : List Nat) :
    (cursor.behind counts).ahead = cursor.ahead.drop counts.sum ∧
      (cursor.behind counts).OnWire := by
  induction counts generalizing cursor with
  | nil => exact ⟨rfl, onWire⟩
  | cons count counts inductionHypothesis =>
    obtain ⟨_, rest, later⟩ := onWire.take count
    obtain ⟨aheadEq, further⟩ := inductionHypothesis later
    refine ⟨?_, further⟩
    rw [List.sum_cons, ← List.drop_drop, ← rest]
    exact aheadEq

end Cursor

namespace Codec

/-- Every frame has one wire form by the rules of the format, as long as the frame announces, and
all ways to it agree. A cursor walks it from end to end; cuts of any sizes are its successive slices,
and wherever they leave the cursor, the cursor knows the number of bytes left, gives those bytes next,
and gives nothing more once there are none. Encoding gives it exactly if a length byte can count the
data; under the same condition every codec puts it behind what stands in a send buffer, and otherwise
refuses the frame and leaves the buffer alone. No codec is changed by it. -/
theorem encodings_agree (frame : Frame) :
    ∃ wire, frame.IsWire wire ∧ wire.length = frame.encodedLength ∧
      (Cursor.start frame).rest = wire ∧
      (∀ counts, (Cursor.start frame).cuts counts = slices counts wire) ∧
      (∀ counts, ((Cursor.start frame).behind counts).Faces (wire.drop counts.sum)) ∧
      (frame.encode =
        if frame.payload.length ≤ maxDataLength then .ok wire
        else .error (.dataTooLong frame.payload.length)) ∧
      ∀ (codec : Codec) (buffer : List UInt8),
        codec.encode frame buffer =
          if frame.payload.length ≤ maxDataLength then
            ⟨.ok none, codec, buffer ++ wire, [.encoded frame]⟩
          else ⟨.error (.unsendable (.dataTooLong frame.payload.length)), codec, buffer, []⟩ := by
  have started := Cursor.onWire_start frame
  refine ⟨frame.layout, frame.isWire_layout, frame.length_layout, Cursor.rest_start frame,
    started.cuts, fun counts => ?_, frame.encode_eq, fun codec buffer => ?_⟩
  · obtain ⟨aheadEq, onWire⟩ := started.behind counts
    have faces := onWire.faces
    rw [aheadEq] at faces
    exact faces
  · rw [encode, frame.encode_eq]
    by_cases fits : frame.payload.length ≤ maxDataLength
    · simp only [if_pos fits]
    · simp only [if_neg fits]

end Codec

end MeterBus
