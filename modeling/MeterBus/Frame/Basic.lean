import MeterBus.Text.Hex

/-!
# Link-layer frames

The four telegram formats of the meter bus (EN 13757-2):

    single   E5
    short    10 C A CS 16
    control  68 03 03 68 C A CI CS 16
    long     68 L L 68 C A CI data CS 16

`L` counts the bytes from `C` to the end of the data and `CS` is their sum modulo 256.
`Frame.layout` is the format itself. `Frame.validate` refuses what does not fit the length byte.
-/

namespace MeterBus

/-- A telegram of the link layer. -/
inductive Frame where
  /-- The one-byte acknowledgement. -/
  | single
  /-- A frame of fixed length without a control information field. -/
  | short (control address : UInt8)
  /-- A frame of variable length that carries no data. -/
  | control (control address information : UInt8)
  /-- A frame of variable length with data. -/
  | long (control address information : UInt8) (data : List UInt8)
  deriving DecidableEq, Repr, Inhabited

/-- The byte of a single-character frame. -/
def singleByte : UInt8 := 0xE5

/-- The start byte of a short frame. -/
def shortStart : UInt8 := 0x10

/-- The start byte of control and long frames, sent twice. -/
def longStart : UInt8 := 0x68

/-- The stop byte of every frame of more than one byte. -/
def stopByte : UInt8 := 0x16

/-- The number of control, address and information bytes that a length byte counts. -/
def headerLength : Nat := 3

/-- The most data bytes that the length byte of a long frame can count. -/
def maxDataLength : Nat := 252

/-- What is wrong with a byte string or with a frame to be sent. -/
inductive FrameError where
  /-- The received checksum differs from the computed one. -/
  | malformedChecksum (computed received : UInt8)
  /-- The two length bytes of a long frame differ. -/
  | inconsistentLength (first second : UInt8)
  /-- The length byte does not cover the control, address and information bytes. -/
  | lengthTooShort (length : UInt8)
  /-- A frame does not end with the stop byte. -/
  | missingStop (found : UInt8)
  /-- No frame starts with this byte, or a long frame does not repeat its start byte. -/
  | unexpectedStart (found : UInt8)
  /-- The data of a long frame does not fit its length byte. -/
  | dataTooLong (length : Nat)
  /-- A named rule of a grammar refused the input. -/
  | grammar (rule : String)
  deriving DecidableEq, Repr, Inhabited

/-- The text that reports a frame error. -/
def FrameError.message : FrameError → String
  | .malformedChecksum computed received =>
    "checksum mismatch (computed " ++ Hex.byteText computed ++ ", received "
      ++ Hex.byteText received ++ ")"
  | .inconsistentLength first second =>
    "inconsistent length values (" ++ toString first.toNat ++ " != " ++ toString second.toNat ++ ")"
  | .lengthTooShort length =>
    "length field " ++ toString length.toNat ++ " below minimum of " ++ toString headerLength
  | .missingStop found =>
    "expected stop byte " ++ Hex.byteText stopByte ++ ", found " ++ Hex.byteText found
  | .unexpectedStart found => "unexpected start byte " ++ Hex.byteText found
  | .dataTooLong length =>
    "user data of " ++ toString length ++ " bytes exceeds the " ++ toString maxDataLength
      ++ " byte limit"
  | .grammar rule => "parser error: " ++ rule

/-- The sum of bytes modulo 256. -/
def checksum (bytes : List UInt8) : UInt8 :=
  bytes.foldl (· + ·) 0

namespace Frame

/-- The four formats. -/
inductive Kind where
  | single | short | control | long
  deriving DecidableEq, Repr, Inhabited

/-- The name of a format. -/
def Kind.name : Kind → String
  | .single => "single"
  | .short => "short"
  | .control => "control"
  | .long => "long"

/-- The format of a frame. -/
def kind : Frame → Kind
  | .single => .single
  | .short .. => .short
  | .control .. => .control
  | .long .. => .long

/-- The address field, if the format has one. -/
def address? : Frame → Option UInt8
  | .single => none
  | .short _ a | .control _ a _ | .long _ a _ _ => some a

/-- The control field, if the format has one. -/
def control? : Frame → Option UInt8
  | .single => none
  | .short c _ | .control c _ _ | .long c _ _ _ => some c

/-- The same frame sent to another address; a single character has none to replace. -/
def withAddress (address : UInt8) : Frame → Frame
  | .single => .single
  | .short c _ => .short c address
  | .control c _ ci => .control c address ci
  | .long c _ ci data => .long c address ci data

/-- The frame that reading gives back: a long frame without data has the bytes of a control frame. -/
def canonical : Frame → Frame
  | .long c a ci [] => .control c a ci
  | frame => frame

/-- The number of bytes on the wire. -/
def encodedLength : Frame → Nat
  | .single => 1
  | .short .. => 5
  | .control .. => 9
  | .long _ _ _ data => 9 + data.length

/-- The length byte that stands for this many data bytes, modulo 256. -/
def lengthByte (dataLength : Nat) : UInt8 :=
  UInt8.ofNat (dataLength + headerLength)

/-- The bytes that the checksum covers. -/
def body : Frame → List UInt8
  | .single => []
  | .short c a => [c, a]
  | .control c a ci => [c, a, ci]
  | .long c a ci data => c :: a :: ci :: data

/-- The frame with this body: two bytes make a short frame, three a control frame, more a long one.
A lone acknowledgement has none. -/
def ofBody : List UInt8 → Frame
  | [c, a] => .short c a
  | [c, a, ci] => .control c a ci
  | c :: a :: ci :: data => .long c a ci data
  | _ => .single

/-- The bytes in front of the body; the length byte of oversized data is cut to eight bits. -/
def opening : Frame → List UInt8
  | .single => [singleByte]
  | .short .. => [shortStart]
  | .control .. => [longStart, lengthByte 0, lengthByte 0, longStart]
  | .long _ _ _ data => [longStart, lengthByte data.length, lengthByte data.length, longStart]

/-- The bytes behind the body. -/
def closing : Frame → List UInt8
  | .single => []
  | frame => [checksum frame.body, stopByte]

/-- The bytes of the format. -/
def layout (frame : Frame) : List UInt8 :=
  frame.opening ++ frame.body ++ frame.closing

/-- Accepts the frames that the length byte can describe. -/
def validate : Frame → Except FrameError Unit
  | .long _ _ _ data =>
    if data.length > maxDataLength then .error (.dataTooLong data.length) else .ok ()
  | _ => .ok ()

/-- The layout has as many bytes as the frame announces. -/
@[simp] theorem length_layout (frame : Frame) : frame.layout.length = frame.encodedLength := by
  cases frame <;> simp [layout, opening, body, closing, encodedLength]
  omega

/-- Reading a body back gives the canonical form of the frame it came from. -/
@[simp] theorem ofBody_body (frame : Frame) : ofBody frame.body = frame.canonical := by
  rcases frame with _ | _ | _ | ⟨_, _, _, _ | _⟩ <;> rfl

/-- Every frame takes at least one byte. -/
theorem encodedLength_pos (frame : Frame) : 0 < frame.encodedLength := by
  cases frame <;> simp only [encodedLength] <;> omega

end Frame

end MeterBus
