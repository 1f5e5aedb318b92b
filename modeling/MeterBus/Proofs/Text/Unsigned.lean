import MeterBus.Proofs.Text.Hex
import MeterBus.Text.Unsigned

/-!
# Small counts as text

A count below ten is written as one digit, with zeros and then a plus sign in front at most.
-/

namespace MeterBus

namespace Digits

variable {digits : List Char} {start count : Nat}

/-- A decimal digit is the digit of a number below ten. -/
theorem isDigit_ten_iff (c : Char) : isDigit 10 c ↔ ∃ value < 10, c = Hex.digit value := by
  constructor
  · intro decimal
    cases valueEq : Hex.digitValue? c with
    | none => simp [isDigit, valueEq] at decimal
    | some value =>
      have small : value < 10 := by simpa [isDigit, valueEq] using decimal
      obtain ⟨_, _, _, digitEq⟩ := Hex.digit_of_digitValue? valueEq
      exact ⟨value, small, (digitEq small).symm⟩
  · rintro ⟨value, small, rfl⟩
    simpa [isDigit, Hex.digitValue?_digit (Nat.lt_trans small (by decide : 10 < 16))] using small

/-- A digit behind a number counts ones. -/
theorem extend_digit (start : Nat) {value : Nat} (small : value < 16) :
    extend 10 start (Hex.digit value) = 10 * start + value := by
  rw [extend, Hex.digitValue?_digit small]
  rfl

/-- Decimal digits that make a count below ten of a number are zeros and the digit of the count, and
the number is zero. -/
theorem eq_of_foldl_extend (decimal : ∀ c ∈ digits, isDigit 10 c) (some : digits ≠ [])
    (valueEq : digits.foldl (extend 10) start = count) (small : count < 10) :
    start = 0 ∧ ∃ zeros, digits = List.replicate zeros '0' ++ [Hex.digit count] := by
  induction digits generalizing start with
  | nil => exact absurd rfl some
  | cons c rest inductionHypothesis =>
    obtain ⟨ofFirst, ofRest⟩ := List.forall_mem_cons.1 decimal
    obtain ⟨value, valueSmall, rfl⟩ := (isDigit_ten_iff c).1 ofFirst
    rw [List.foldl_cons, extend_digit start (by omega)] at valueEq
    cases rest with
    | nil =>
      rw [List.foldl_nil] at valueEq
      obtain ⟨rfl, rfl⟩ : start = 0 ∧ value = count := by omega
      exact ⟨rfl, 0, rfl⟩
    | cons second others =>
      obtain ⟨nothing, zeros, restEq⟩ :=
        inductionHypothesis ofRest (List.cons_ne_nil _ _) valueEq
      obtain ⟨rfl, rfl⟩ : start = 0 ∧ value = 0 := by omega
      exact ⟨rfl, zeros + 1, congrArg (Hex.digit 0 :: ·) restEq⟩

/-- Zeros in front of a digit do not count. -/
theorem value_replicate_append (zeros : Nat) (small : count < 16) :
    value 10 (List.replicate zeros '0' ++ [Hex.digit count]) = count := by
  have nothing : value 10 (List.replicate zeros '0') = 0 := by
    induction zeros with
    | zero => rfl
    | succ zeros inductionHypothesis =>
      rw [List.replicate_succ', value_append_singleton, inductionHypothesis]
      rfl
  rw [value_append_singleton, nothing, extend_digit 0 small, Nat.mul_zero, Nat.zero_add]

end Digits

namespace Unsigned

variable {characters : List Char} {limit count : Nat}

/-- The decimal digits of a count below ten, with a plus sign in front of them at most. -/
def IsWritten (count : Nat) (characters : List Char) : Prop :=
  ∃ sign zeros, (sign = [] ∨ sign = ['+']) ∧
    characters = sign ++ (List.replicate zeros '0' ++ [Hex.digit count])

/-- Nothing but a plus sign stands in front of what counts. -/
theorem exists_sign (characters : List Char) :
    ∃ sign, (sign = [] ∨ sign = ['+']) ∧ characters = sign ++ unsigned characters := by
  unfold unsigned
  split
  · exact ⟨['+'], .inr rfl, rfl⟩
  · exact ⟨[], .inl rfl, rfl⟩

/-- What is left without the sign. -/
theorem IsWritten.unsigned (written : IsWritten count characters) (small : count < 10) :
    ∃ zeros, unsigned characters = List.replicate zeros '0' ++ [Hex.digit count] := by
  obtain ⟨sign, zeros, rfl | rfl, rfl⟩ := written
  · have alone : ∀ count : Fin 10, Unsigned.unsigned [Hex.digit count] = [Hex.digit count] := by
      decide
    cases zeros with
    | zero => exact ⟨0, alone ⟨count, small⟩⟩
    | succ zeros => exact ⟨zeros + 1, rfl⟩
  · exact ⟨zeros, rfl⟩

/-- Where counts below ten are read, a count is read from the texts in which it is written. -/
theorem parse?_eq_some_iff {text : String} (small : limit < 10) :
    parse? limit text = some count ↔ count ≤ limit ∧ IsWritten count text.toList := by
  simp only [parse?, Option.ite_none_right_eq_some,
    Digits.valueUpTo?_eq limit (by decide : 0 < 10), Option.some.injEq, List.all_eq_true]
  constructor
  · rintro ⟨⟨some, decimal⟩, fits, valueEq⟩
    obtain ⟨sign, signed, split⟩ := exists_sign text.toList
    obtain ⟨_, zeros, digitsEq⟩ :=
      Digits.eq_of_foldl_extend decimal some valueEq (by omega)
    exact ⟨by omega, sign, zeros, signed, digitsEq ▸ split⟩
  · rintro ⟨fits, written⟩
    obtain ⟨zeros, digitsEq⟩ := written.unsigned (by omega)
    have valueEq := Digits.value_replicate_append zeros (Nat.lt_of_le_of_lt fits (by omega))
    rw [digitsEq, valueEq]
    refine ⟨⟨by simp, fun c among => ?_⟩, fits, rfl⟩
    rw [Digits.isDigit_ten_iff]
    obtain zero | last := List.mem_append.1 among
    · exact ⟨0, by decide, List.eq_of_mem_replicate zero⟩
    · exact ⟨count, by omega, List.mem_singleton.1 last⟩

end Unsigned

end MeterBus
