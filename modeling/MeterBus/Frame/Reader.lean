import MeterBus.Frame.Basic

/-!
# Reading frames from a growing buffer

`Frame.read` looks at the front of a buffer. It accepts a frame and says how many bytes it took, or
says how many more bytes are needed before anything can be decided, or names what is wrong.
Bytes behind the frame are left alone.
-/

namespace MeterBus

/-- Why no frame stands at the front of a buffer. -/
inductive ReadError where
  /-- Nothing can be decided before this many more bytes have come, if the number is known. -/
  | incomplete (missing : Option Nat)
  /-- No continuation of the buffer starts with a frame. -/
  | invalid (cause : FrameError)
  deriving DecidableEq, Repr, Inhabited

/-- The text that reports why a read gave no frame. -/
def ReadError.message : ReadError → String
  | .incomplete (some missing) => "incomplete frame (Size(" ++ toString missing ++ "))"
  | .incomplete none => "incomplete frame (Unknown)"
  | .invalid cause => cause.message

/-- A step of reading: from the bytes ahead to a value and the bytes behind it. -/
abbrev ByteReader (α : Type) := List UInt8 → Except ReadError (α × List UInt8)

namespace ByteReader

/-- The next byte. -/
def byte : ByteReader UInt8
  | [] => .error (.incomplete (some 1))
  | b :: rest => .ok (b, rest)

/-- The next `count` bytes; a shorter buffer lacks exactly the difference. -/
def take (count : Nat) : ByteReader (List UInt8) := fun bytes =>
  let (taken, rest) := bytes.splitAt count
  if taken.length = count then .ok (taken, rest)
  else .error (.incomplete (some (count - taken.length)))

/-- A body of `count` bytes followed by its checksum. -/
def checksummed (count : Nat) : ByteReader (List UInt8) := fun bytes => do
  let (body, rest) ← take count bytes
  let (received, rest) ← byte rest
  if checksum body = received then
    return (body, rest)
  else
    throw (.invalid (.malformedChecksum (checksum body) received))

/-- The byte that ends a frame. -/
def stop : ByteReader Unit := fun bytes => do
  let (found, rest) ← byte bytes
  if found = stopByte then
    return ((), rest)
  else
    throw (.invalid (.missingStop found))

/-- A body of `count` bytes, its checksum and the stop byte. -/
def framed (count : Nat) : ByteReader Frame := fun bytes => do
  let (body, rest) ← checksummed count bytes
  let ((), rest) ← stop rest
  return (.ofBody body, rest)

/-- What follows the start byte of a short frame. -/
def short : ByteReader Frame := framed 2

/-- The length bytes and the second start byte; gives the length of the body. -/
def lengthHeader : ByteReader Nat := fun bytes => do
  let (first, rest) ← byte bytes
  let (second, rest) ← byte rest
  if first ≠ second then
    throw (.invalid (.inconsistentLength first second))
  if first.toNat < headerLength then
    throw (.invalid (.lengthTooShort first))
  let (start, rest) ← byte rest
  if start ≠ longStart then
    throw (.invalid (.unexpectedStart start))
  return (first.toNat, rest)

/-- What follows the first start byte of a frame of variable length. -/
def long : ByteReader Frame := fun bytes => do
  let (length, rest) ← lengthHeader bytes
  framed length rest

/-- One frame; the first byte decides its format. -/
def frame : ByteReader Frame := fun bytes => do
  let (start, rest) ← byte bytes
  if start = singleByte then return (.single, rest)
  else if start = shortStart then short rest
  else if start = longStart then long rest
  else throw (.invalid (.unexpectedStart start))

end ByteReader

namespace Frame

/-- The frame at the front of a buffer and the number of bytes it takes: as many as it has when it
is laid out. What is missing behind it comes to the same, as `read_eq_ok_iff_rest` says, but would have
to be measured. -/
def read (bytes : List UInt8) : Except ReadError (Nat × Frame) := do
  let (frame, _) ← ByteReader.frame bytes
  return (frame.encodedLength, frame)

/-- The frame at the front of a buffer. -/
def ofBytes (bytes : List UInt8) : Except ReadError Frame := do
  let (_, frame) ← read bytes
  return frame

end Frame

end MeterBus
