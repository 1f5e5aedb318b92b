import MeterBus.Text.Digits
import MeterBus.Text.Scan

/-!
# Socket addresses

A socket address is an address of the internet protocol, version 4 or 6, and a port. Reading takes
every usual spelling; writing gives the recommended one (RFC 5952).
-/

namespace MeterBus

/-- An address of version 4. -/
structure Ip4 where
  first : UInt8
  second : UInt8
  third : UInt8
  fourth : UInt8
  deriving DecidableEq, Repr

/-- An address of version 6: eight groups of 16 bits. -/
structure Ip6 where
  groups : Vector UInt16 8
  deriving DecidableEq, Repr

namespace Ip6

/-- Whether an address stands for all addresses of a host. -/
def isUnspecified (address : Ip6) : Bool :=
  address.groups.toList.all (· == 0)

/-- Whether an address stands for one of version 4. -/
def isMapped (address : Ip6) : Bool :=
  address.groups.toList.take 6 == [0, 0, 0, 0, 0, 0xFFFF]

/-- Whether an address stands for a group of hosts. -/
def isMulticast (address : Ip6) : Bool :=
  address.groups[0] ≥ 0xFF00

/-- Whether an address means something on one network only. -/
def isLinkLocal (address : Ip6) : Bool :=
  address.groups[0] ≥ 0xFE80 && address.groups[0] < 0xFEC0

end Ip6

/-- Where a server listens. -/
inductive SocketAddress where
  | v4 (address : Ip4) (port : UInt16)
  /-- The scope tells networks apart that use the same addresses; zero is none. -/
  | v6 (address : Ip6) (scope : UInt32) (port : UInt16)
  deriving DecidableEq, Repr

namespace SocketAddress

/-! ## Reading -/

/-- A decimal number up to a limit. -/
def decimal (limit : Nat) : Scan Nat :=
  Scan.mapping (Digits.valueUpTo? limit 10) (Scan.run (Digits.isDigit 10))

/-- A byte of an address of version 4: at most three digits, and no zero in front. -/
def octet : Scan UInt8 :=
  Scan.mapping
    (fun digits =>
      if digits.length ≤ 3 ∧ (digits.length = 1 ∨ digits.head? ≠ some '0')
          ∧ Digits.value 10 digits ≤ 255 then
        some (UInt8.ofNat (Digits.value 10 digits))
      else none)
    (Scan.run (Digits.isDigit 10))

/-- An address of version 4. -/
def ip4 : Scan Ip4 := do
  let first ← octet
  Scan.exactly '.'
  let second ← octet
  Scan.exactly '.'
  let third ← octet
  Scan.exactly '.'
  let fourth ← octet
  return ⟨first, second, third, fourth⟩

/-- A group of an address of version 6. -/
def group : Scan UInt16 :=
  Scan.mapping
    (fun digits => if digits.length ≤ 4 then some (UInt16.ofNat (Digits.value 16 digits)) else none)
    (Scan.run (Digits.isDigit 16))

/-- The colon in front of every group but the first. -/
def colonUnless (first : Bool) : Scan Unit :=
  if first then pure () else Scan.exactly ':'

/-- The last two groups, written as an address of version 4. -/
def embedded (first : Bool) : Scan (List UInt16) := do
  colonUnless first
  let address ← ip4
  let pair (high low : UInt8) : UInt16 := UInt16.ofNat (256 * high.toNat + low.toNat)
  return [pair address.first address.second, pair address.third address.fourth]

/-- Up to a number of groups, and whether the last two were written as an address of version 4. -/
def groups : Nat → Bool → Scan (List UInt16 × Bool)
  | 0, _ => pure ([], false)
  | room + 1, first =>
    (do
      if room = 0 then failure
      return (← embedded first, true))
    <|> (do
      colonUnless first
      let next ← group
      let (others, mixed) ← groups room false
      return (next :: others, mixed))
    <|> pure ([], false)

/-- The address that eight groups make. -/
def ofGroups? (groups : List UInt16) : Option Ip6 :=
  if length : groups.length = 8 then some ⟨⟨groups.toArray, by simpa using length⟩⟩ else none

/-- An address of version 6, in which two colons stand for groups of zeros. -/
def ip6 : Scan Ip6 :=
  Scan.mapping ofGroups? do
    let (front, mixed) ← groups 8 true
    if front.length = 8 then return front
    if mixed then failure
    Scan.word [':', ':']
    let (back, _) ← groups (7 - front.length) true
    return front ++ List.replicate (8 - front.length - back.length) 0 ++ back

/-- The port behind an address. -/
def port : Scan UInt16 := do
  Scan.exactly ':'
  return UInt16.ofNat (← decimal 65535)

/-- The scope behind an address, if it is given. -/
def scope : Scan UInt32 :=
  (do
    Scan.exactly '%'
    return UInt32.ofNat (← decimal (UInt32.size - 1)))
  <|> pure 0

/-- A socket address of version 4. -/
def ofVersion4 : Scan SocketAddress := do
  let address ← ip4
  return .v4 address (← port)

/-- A socket address of version 6. -/
def ofVersion6 : Scan SocketAddress := do
  Scan.exactly '['
  let address ← ip6
  let scope ← scope
  Scan.exactly ']'
  return .v6 address scope (← port)

/-- Reads a socket address. -/
def parse? (text : String) : Option SocketAddress :=
  Scan.whole (ofVersion4 <|> ofVersion6) text.toList

/-! ## Writing -/

/-- An address of version 4. -/
def ip4Text (address : Ip4) : String :=
  String.intercalate "."
    ([address.first, address.second, address.third, address.fourth].map fun byte =>
      toString byte.toNat)

/-- A list of groups. -/
def groupsText (groups : List UInt16) : String :=
  String.intercalate ":" (groups.map fun group => String.ofList (Nat.toDigits 16 group.toNat))

/-- The number of zeros in front. -/
def zerosAhead (groups : List UInt16) : Nat :=
  (groups.takeWhile (· == 0)).length

/-- Where the first of the longest runs of zeros begins, and how long it is. -/
def longestZeros (groups : List UInt16) : Nat × Nat :=
  (List.range groups.length).foldl
    (fun best start =>
      let length := zerosAhead (groups.drop start)
      if best.2 < length then (start, length) else best)
    (0, 0)

/-- The address of version 4 that an address of version 6 stands for. -/
def mapped? (address : Ip6) : Option Ip4 :=
  match address.groups.toList with
  | [0, 0, 0, 0, 0, 0xFFFF, high, low] =>
    let byte (value : Nat) : UInt8 := UInt8.ofNat value
    some ⟨byte (high.toNat / 256), byte high.toNat, byte (low.toNat / 256), byte low.toNat⟩
  | _ => none

/-- An address of version 6; the longest run of at least two zeros is left out. -/
def ip6Text (address : Ip6) : String :=
  match mapped? address with
  | some address => "::ffff:" ++ ip4Text address
  | none =>
    let groups := address.groups.toList
    let (start, length) := longestZeros groups
    if 1 < length then
      groupsText (groups.take start) ++ "::" ++ groupsText (groups.drop (start + length))
    else groupsText groups

/-- The text of a socket address. -/
def text : SocketAddress → String
  | .v4 address port => ip4Text address ++ ":" ++ toString port.toNat
  | .v6 address scope port =>
    let zone := if scope = 0 then "" else "%" ++ toString scope.toNat
    "[" ++ ip6Text address ++ zone ++ "]:" ++ toString port.toNat

end SocketAddress

end MeterBus
