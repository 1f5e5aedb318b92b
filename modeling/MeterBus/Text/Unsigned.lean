import MeterBus.Text.Digits

/-!
# Counts as text

A count is written in decimal digits, with a plus sign in front at most. Where a number of either
sign is read, only the one with a minus sign that is a count stands for one: zero.
-/

namespace MeterBus.Unsigned

/-- What stands behind the sign. -/
def unsigned : List Char → List Char
  | '+' :: digits => digits
  | digits => digits

/-- Reads a count that does not exceed a limit. -/
def parse? (limit : Nat) (text : String) : Option Nat :=
  let digits := unsigned text.toList
  if digits ≠ [] ∧ digits.all (Digits.isDigit 10) then Digits.valueUpTo? limit 10 digits else none

/-- Reads a number of either sign that is a count and does not exceed a limit. -/
def parseSigned? (limit : Nat) (text : String) : Option Nat :=
  match text.toList with
  | '-' :: digits => if digits ≠ [] ∧ digits.all (· = '0') then some 0 else none
  | _ => parse? limit text

end MeterBus.Unsigned
