/-!
# Counts as doubles

Some formats hold every number as a double. A count is then shown in the fewest digits that tell its
nearest double from all others, padded with zeros up to the decimal point. Below two to the power of
53 that is the count itself.
-/

namespace MeterBus.Double

/-- A double that is a whole number: a significand of at most 53 bits times a power of two. -/
structure Whole where
  significand : Nat
  exponent : Nat
  deriving DecidableEq, Repr

/-- The number of bits of a significand. -/
def precision : Nat := 53

/-- The number that a double stands for. -/
def Whole.value (double : Whole) : Nat :=
  double.significand * Nat.pow 2 double.exponent

/-- The double nearest to a count; of two that are equally near, the one with the even
significand. -/
def nearest (count : Nat) : Whole :=
  if count < Nat.pow 2 precision then ⟨count, 0⟩
  else
    let exponent := count.log2 + 1 - precision
    let unit := Nat.pow 2 exponent
    let below := count / unit
    let rest := 2 * (count % unit)
    let significand := if rest > unit ∨ (rest = unit ∧ below % 2 = 1) then below + 1 else below
    if significand = Nat.pow 2 precision then ⟨Nat.pow 2 (precision - 1), exponent + 1⟩
    else ⟨significand, exponent⟩

/-- Whether a number reads back as a double. The neighbours of a power of two are nearer below than
above. -/
def Whole.covers (double : Whole) (number : Nat) : Bool :=
  let unit := Nat.pow 2 double.exponent
  let value := 4 * double.value
  let low := value - (if double.significand = Nat.pow 2 (precision - 1) then unit else 2 * unit)
  let high := value + 2 * unit
  if double.significand % 2 = 0 then low ≤ 4 * number && 4 * number ≤ high
  else low < 4 * number && 4 * number < high

/-- The multiple of a unit nearest to a double among those that read back as it. -/
def Whole.onGrid? (double : Whole) (unit : Nat) : Option Nat :=
  let below := double.value / unit * unit
  let above := below + unit
  match double.covers below, double.covers above with
  | true, true => some (if double.value - below ≤ above - double.value then below else above)
  | true, false => some below
  | false, true => some above
  | false, false => none

/-- The number with the most trailing zeros, up to `zeros`, that reads back as a double. -/
def Whole.shortest (double : Whole) : Nat → Nat
  | 0 => double.value
  | zeros + 1 => (double.onGrid? (Nat.pow 10 (zeros + 1))).getD (double.shortest zeros)

/-- A count as its nearest double is shown. -/
def shown (count : Nat) : Nat :=
  if count < Nat.pow 2 precision then count else (nearest count).shortest 20

end MeterBus.Double
