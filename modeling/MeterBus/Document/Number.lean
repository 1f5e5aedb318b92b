import MeterBus.Document.Item
import MeterBus.Text.Digits
import MeterBus.Text.Scan

/-!
# Numbers

Integers of 64 bits in base ten, sixteen, eight and two, and floating point numbers. Underscores may
stand between digits.
-/

namespace MeterBus.Document

/-- Digits of a base; an underscore may stand between two of them. -/
def digits (base : Nat) : Scan (List Char) := do
  let first ← Scan.char (Digits.isDigit base)
  let others ← Scan.many
    (Scan.char (Digits.isDigit base) <|> (do Scan.exactly '_'; Scan.char (Digits.isDigit base)))
  return first :: others

/-- The digits of a decimal number without leading zeros. -/
def wholeDigits : Scan (List Char) :=
  Scan.satisfying (fun digits => digits.head? != some '0') (digits 10)
    <|> List.singleton <$> Scan.char (Digits.isDigit 10)

/-- A sign, if there is one: whether it is a minus. -/
def sign : Scan Bool :=
  (do Scan.exactly '-'; return true) <|> (do Scan.exactly '+'; return false) <|> pure false

/-- A number of a base other than ten. -/
def inBase (letter : Char) (base : Nat) : Scan Item := do
  Scan.word ['0', letter]
  let value ← Scan.mapping (Digits.valueUpTo? (Nat.pow 2 63 - 1) base) (digits base)
  return .integer value

/-- A decimal number. -/
def decimal : Scan Item := do
  let negative ← sign
  let limit := if negative then Nat.pow 2 63 else Nat.pow 2 63 - 1
  let size ← Scan.mapping (Digits.valueUpTo? limit 10) wholeDigits
  return .integer (if negative then -size else size)

/-- An integer. -/
def integer : Scan Item :=
  inBase 'x' 16 <|> inBase 'o' 8 <|> inBase 'b' 2 <|> decimal

/-- The least number that is too large for a double: it lies halfway between the largest double and
the next power of two. -/
def doubleLimit : Nat := Nat.pow 2 1024 - Nat.pow 2 970

/-- Whether a number, given by its digits and a power of ten, is too large for a double. -/
def exceedsDouble (digits : List Char) (exponent : Int) : Bool :=
  let significant := digits.dropWhile (· == '0')
  let magnitude := significant.length + exponent
  if significant = [] ∨ magnitude < 300 then false
  else if 310 < magnitude then true
  else if 0 ≤ exponent then doubleLimit ≤ Digits.value 10 significant * Nat.pow 10 exponent.toNat
  else doubleLimit * Nat.pow 10 (-exponent).toNat ≤ Digits.value 10 significant

/-- The greatest exponent that is told apart from others. No text has enough digits for a number
with a greater one to be of a size that matters. -/
def exponentLimit : Nat := Nat.pow 10 18

/-- The exponent of a number. -/
def exponent : Scan Int := do
  Scan.exactly 'e' <|> Scan.exactly 'E'
  let negative ← sign
  let size := (Digits.valueUpTo? exponentLimit 10 (← digits 10)).getD exponentLimit
  return if negative then -size else size

/-- The digits behind the point. -/
def fraction : Scan (List Char) := do
  Scan.exactly '.'
  digits 10

/-- A number with a fraction, an exponent or both. A positive one has to be finite. -/
def fractional : Scan Unit := do
  let negative ← sign
  let whole ← wholeDigits
  let (decimals, power) ←
    (do return ([], ← exponent))
      <|> (do
        let decimals ← fraction
        return (decimals, ← exponent <|> pure 0))
  if !negative && exceedsDouble (whole ++ decimals) (power - decimals.length) then failure

/-- Infinity, or what is no number. -/
def special : Scan Unit := do
  let _ ← sign
  Scan.word ['i', 'n', 'f'] <|> Scan.word ['n', 'a', 'n']

/-- The characters that a scan takes. -/
def spelling (item : Scan Unit) : Scan String := do
  let before ← Scan.ahead
  item
  let behind ← Scan.ahead
  return String.ofList (before.rest.take (before.size - behind.size))

/-- A floating point number. -/
def float : Scan Item :=
  Item.float <$> spelling (fractional <|> special)

end MeterBus.Document
