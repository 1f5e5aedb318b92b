import MeterBus.Frame.Basic

/-!
# The bytes of a frame one at a time

A cursor computes each byte of the wire form from its position, without building the whole form. The
bytes that are sent are those that a cursor gives: `Cursor.rest_start` says that it walks the layout
of the frame.
-/

namespace MeterBus

namespace Frame

/-- The data bytes of a frame. -/
def payload : Frame → List UInt8
  | .long _ _ _ data => data
  | _ => []

/-- The byte of a variable-length frame at a position. -/
def variableByteAt (c a ci : UInt8) (data : Array UInt8) (index : Nat) : UInt8 :=
  match index with
  | 0 | 3 => longStart
  | 1 | 2 => lengthByte data.size
  | 4 => c
  | 5 => a
  | 6 => ci
  | i + 7 =>
    match data[i]? with
    | some byte => byte
    | none => if i = data.size then checksum (c :: a :: ci :: data.toList) else stopByte

/-- The byte of the wire form of a frame with this payload at a position; positions behind the end
show the last byte. -/
def byteAt (frame : Frame) (payload : Array UInt8) (index : Nat) : UInt8 :=
  match frame with
  | .single => singleByte
  | .short c a =>
    match index with
    | 0 => shortStart
    | 1 => c
    | 2 => a
    | 3 => checksum [c, a]
    | _ => stopByte
  | .control c a ci | .long c a ci _ => variableByteAt c a ci payload index

end Frame

/-- A place in the wire form of a frame. -/
structure Cursor where
  frame : Frame
  position : Nat
  /-- The number of bytes of the whole form. -/
  length : Nat
  /-- The data bytes, each at its index. -/
  payload : Array UInt8 := frame.payload.toArray
  payload_eq : payload = frame.payload.toArray := by rfl
  deriving DecidableEq, Repr

namespace Cursor

/-- A cursor at the first byte. -/
def start (frame : Frame) : Cursor where
  frame := frame
  position := 0
  length := frame.encodedLength

/-- The number of bytes that are left. -/
def left (cursor : Cursor) : Nat :=
  cursor.length - cursor.position

/-- The byte under the cursor and the cursor behind it, unless all bytes are used. -/
def next? (cursor : Cursor) : Option (UInt8 × Cursor) :=
  if cursor.position < cursor.length then
    some (cursor.frame.byteAt cursor.payload cursor.position,
      { cursor with position := cursor.position + 1 })
  else
    none

/-- Up to `count` bytes and the cursor behind them. -/
def take : Nat → Cursor → List UInt8 × Cursor
  | 0, cursor => ([], cursor)
  | count + 1, cursor =>
    match cursor.next? with
    | none => ([], cursor)
    | some (byte, after) =>
      let (bytes, final) := take count after
      (byte :: bytes, final)

/-- All bytes that are left. -/
def rest (cursor : Cursor) : List UInt8 :=
  (cursor.take cursor.left).1

/-- Successive cuts of the given sizes, each with the number of bytes left behind it. -/
def cuts : List Nat → Cursor → List (List UInt8 × Nat)
  | [], _ => []
  | count :: counts, cursor =>
    let (bytes, after) := cursor.take count
    (bytes, after.left) :: cuts counts after

end Cursor

/-- The bytes of a frame that is valid. -/
def Frame.encode (frame : Frame) : Except FrameError (List UInt8) := do
  frame.validate
  return (Cursor.start frame).rest

/-! ## The cursor and the layout -/

namespace Frame

/-- The bytes of a frame of variable length, each at its position. -/
theorem getElem?_layout_long (c a ci : UInt8) (data : List UInt8) {position : Nat}
    (inside : position < (Frame.long c a ci data).encodedLength) :
    (Frame.long c a ci data).layout[position]? =
      some (variableByteAt c a ci data.toArray position) := by
  have layoutEq : (Frame.long c a ci data).layout =
      longStart :: lengthByte data.length :: lengthByte data.length :: longStart :: c :: a :: ci ::
        (data ++ [checksum (c :: a :: ci :: data), stopByte]) := rfl
  rw [layoutEq]
  simp only [encodedLength] at inside
  rcases position with _ | _ | _ | _ | _ | _ | _ | index
  case succ.succ.succ.succ.succ.succ.succ =>
    simp only [List.getElem?_cons_succ, variableByteAt, List.getElem?_toArray, List.size_toArray]
    by_cases ofData : index < data.length
    · rw [List.getElem?_append_left ofData, List.getElem?_eq_getElem ofData]
    · rw [List.getElem?_append_right (by omega), List.getElem?_eq_none (l := data) (by omega)]
      by_cases ofChecksum : index = data.length
      · simp [ofChecksum]
      · have last : index - data.length = 1 := by omega
        simp [last, ofChecksum]
  -- the bytes in front of the data
  all_goals simp [variableByteAt]

/-- Each byte of the layout is the one computed from its position. -/
theorem getElem?_layout (frame : Frame) {position : Nat} (inside : position < frame.encodedLength) :
    frame.layout[position]? = some (frame.byteAt frame.payload.toArray position) := by
  cases frame with
  | single =>
    simp only [encodedLength, Nat.lt_one_iff] at inside
    rw [inside]
    rfl
  | short c a =>
    rcases position with _ | _ | _ | _ | _ | _
    case succ.succ.succ.succ.succ =>
      simp only [encodedLength] at inside
      omega
    all_goals rfl
  | control c a ci => exact getElem?_layout_long c a ci [] inside
  | long c a ci data => exact getElem?_layout_long c a ci data inside

end Frame

namespace Cursor

/-- The bytes that a cursor has not given yet. -/
def ahead (cursor : Cursor) : List UInt8 :=
  cursor.frame.layout.drop cursor.position

/-- A cursor on a wire form that it knows the length of. -/
structure OnWire (cursor : Cursor) : Prop where
  length_eq : cursor.length = cursor.frame.encodedLength
  position_le : cursor.position ≤ cursor.length

variable {cursor : Cursor}

/-- A cursor starts on the wire form, with all of it ahead. -/
theorem onWire_start (frame : Frame) : (start frame).OnWire :=
  ⟨rfl, Nat.zero_le _⟩

/-- The number of bytes that are left is the number of bytes ahead. -/
theorem OnWire.left_eq (onWire : cursor.OnWire) : cursor.left = cursor.ahead.length := by
  rw [left, ahead, List.length_drop, Frame.length_layout, onWire.length_eq]

/-- A cursor gives the first of the bytes ahead, if there is any. -/
theorem OnWire.next? (onWire : cursor.OnWire) :
    (cursor.ahead = [] ∧ cursor.next? = none) ∨
      ∃ byte after, cursor.next? = some (byte, after) ∧ cursor.ahead = byte :: after.ahead ∧
        after.OnWire := by
  by_cases inside : cursor.position < cursor.length
  · have byteEq := cursor.frame.getElem?_layout (onWire.length_eq ▸ inside)
    obtain ⟨within, byteEq⟩ := List.getElem?_eq_some_iff.1 byteEq
    refine .inr ⟨_, _, if_pos inside, ?_, onWire.length_eq, inside⟩
    rw [ahead, List.drop_eq_getElem_cons within, byteEq, ← cursor.payload_eq]
    rfl
  · refine .inl ⟨List.drop_eq_nil_of_le ?_, if_neg inside⟩
    rw [Frame.length_layout, ← onWire.length_eq]
    exact Nat.le_of_not_lt inside

/-- Taking bytes gives them off the front of those ahead and leaves the others ahead. -/
theorem OnWire.take (onWire : cursor.OnWire) (count : Nat) :
    (cursor.take count).1 = cursor.ahead.take count ∧
      (cursor.take count).2.ahead = cursor.ahead.drop count ∧ (cursor.take count).2.OnWire := by
  induction count generalizing cursor with
  | zero => exact ⟨rfl, rfl, onWire⟩
  | succ count inductionHypothesis =>
    obtain ⟨done, none⟩ | ⟨byte, after, some, aheadEq, later⟩ := onWire.next?
    · have stays : cursor.take (count + 1) = ([], cursor) := by rw [Cursor.take, none]
      rw [stays, done]
      exact ⟨rfl, rfl, onWire⟩
    · obtain ⟨taken, left, further⟩ := inductionHypothesis later
      have goes : cursor.take (count + 1) =
          (byte :: (after.take count).1, (after.take count).2) := by rw [Cursor.take, some]
      rw [goes, aheadEq, taken]
      exact ⟨rfl, left, further⟩

/-- A cursor that starts at the first byte walks the whole layout. -/
@[simp] theorem rest_start (frame : Frame) : (start frame).rest = frame.layout := by
  have started := onWire_start frame
  rw [rest, (started.take _).1, started.left_eq, List.take_length]
  rfl

end Cursor

/-- A frame has wire bytes if it is valid, and they are its layout. -/
theorem Frame.encode_eq_ok_iff {frame : Frame} {wire : List UInt8} :
    frame.encode = .ok wire ↔ frame.validate = .ok () ∧ wire = frame.layout := by
  rw [Frame.encode, Cursor.rest_start]
  cases validated : frame.validate with
  | error cause => simp [bind, Except.bind]
  | ok accepted => simp [bind, Except.bind, pure, Except.pure, eq_comm]

end MeterBus
