/-!
# Hexadecimal text

Bytes written as two digits each, and such text read back. Writing uses lower case; reading takes
either case and refuses an odd number of digits.
-/

namespace MeterBus.Hex

/-- The lower-case digit of a value below sixteen. -/
def digit (value : Nat) : Char :=
  if value < 10 then Char.ofNat (48 + value) else Char.ofNat (87 + value)

/-- The value of a digit of either case. -/
def digitValue? (c : Char) : Option Nat :=
  if '0' ≤ c ∧ c ≤ '9' then some (c.toNat - 48)
  else if 'a' ≤ c ∧ c ≤ 'f' then some (c.toNat - 87)
  else if 'A' ≤ c ∧ c ≤ 'F' then some (c.toNat - 55)
  else none

/-- The two digits of a byte, high half first. -/
def pair (byte : UInt8) : List Char :=
  [digit (byte.toNat / 16), digit (byte.toNat % 16)]

/-- The digits of a byte string. -/
def digits (bytes : List UInt8) : List Char :=
  bytes.flatMap pair

/-- The text of a byte string. -/
def encode (bytes : List UInt8) : String :=
  String.ofList (digits bytes)

/-- The bytes that a list of digits stands for, two digits a byte. -/
def ofDigits? : List Char → Option (List UInt8)
  | [] => some []
  | [_] => none
  | high :: low :: rest => do
    let h ← digitValue? high
    let l ← digitValue? low
    let tail ← ofDigits? rest
    return UInt8.ofNat (16 * h + l) :: tail

/-- Reads a byte string back from its text. -/
def decode? (text : String) : Option (List UInt8) :=
  ofDigits? text.toList

/-- A byte in the form `0x7b`. -/
def byteText (byte : UInt8) : String :=
  "0x" ++ String.ofList (pair byte)

/-- Every byte string takes two digits a byte. -/
theorem length_digits (bytes : List UInt8) : (digits bytes).length = 2 * bytes.length := by
  induction bytes with
  | nil => rfl
  | cons byte rest ih =>
    simp only [digits, List.flatMap_cons, List.length_append, List.length_cons] at ih ⊢
    rw [ih]
    simp [pair]
    omega

end MeterBus.Hex
