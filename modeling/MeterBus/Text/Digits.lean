import MeterBus.Text.Hex

/-!
# Digits of a base

Digits up to a base of sixteen, in either case, and the numbers that they stand for.
-/

namespace MeterBus.Digits

/-- Whether a character is a digit of a base. -/
def isDigit (base : Nat) (c : Char) : Bool :=
  (Hex.digitValue? c).any (· < base)

/-- A number with one more digit behind it. -/
def extend (base value : Nat) (c : Char) : Nat :=
  base * value + (Hex.digitValue? c).getD 0

/-- The number that digits of a base stand for, the most significant one first. -/
def value (base : Nat) (digits : List Char) : Nat :=
  digits.foldl (extend base) 0

/-- A number with one more digit behind it, unless it exceeds a limit. -/
def extend? (limit base value : Nat) (c : Char) : Option Nat :=
  if extend base value c ≤ limit then some (extend base value c) else none

/-- The number that digits of a base stand for, unless it exceeds a limit. However many digits there
are, no number beyond the limit is worked with. -/
def valueUpTo? (limit base : Nat) (digits : List Char) : Option Nat :=
  digits.foldlM (extend? limit base) 0

/-- A further digit counts ones and makes all digits in front of it count more. -/
theorem value_append_singleton (base : Nat) (digits : List Char) (c : Char) :
    value base (digits ++ [c]) = extend base (value base digits) c := by
  simp [value]

/-- Digits behind a number do not make it less. -/
theorem le_foldl_extend {base : Nat} (positive : 0 < base) (start : Nat) (digits : List Char) :
    start ≤ digits.foldl (extend base) start := by
  induction digits generalizing start with
  | nil => exact Nat.le_refl _
  | cons c digits inductionHypothesis =>
    have larger := Nat.le_mul_of_pos_left start positive
    have longer : base * start ≤ extend base start c := Nat.le_add_right ..
    exact Nat.le_trans (by omega) (inductionHypothesis (extend base start c))

/-- Digits behind a number within the limit give their number, or nothing where it exceeds the
limit. -/
theorem foldlM_extend? {limit base : Nat} (positive : 0 < base) {start : Nat}
    (small : start ≤ limit) (digits : List Char) :
    digits.foldlM (extend? limit base) start =
      if digits.foldl (extend base) start ≤ limit then some (digits.foldl (extend base) start)
      else none := by
  induction digits generalizing start with
  | nil => simp [small]
  | cons c digits inductionHypothesis =>
    rw [List.foldlM_cons, List.foldl_cons, extend?]
    split
    · next fits => exact inductionHypothesis fits
    · next exceeds =>
      have larger := le_foldl_extend positive (extend base start c) digits
      exact (if_neg (by omega)).symm

/-- The number is the one that the digits stand for, and it is missing only where it would exceed
the limit. -/
theorem valueUpTo?_eq (limit : Nat) {base : Nat} (positive : 0 < base) (digits : List Char) :
    valueUpTo? limit base digits =
      if value base digits ≤ limit then some (value base digits) else none :=
  foldlM_extend? positive (Nat.zero_le _) digits

end MeterBus.Digits
