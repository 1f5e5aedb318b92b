import MeterBus.Text.Hex

/-!
# Hexadecimal text read back

Reading is the inverse of writing: each byte comes back from its two digits. What is read are the even
numbers of digits of either case, and the bytes that come of them are written with the same digits in
lower case. Where bytes are written in front of something else, they are told from it: a single byte
by the number of its digits, and several by a character that is no digit.
-/

namespace MeterBus.Hex

/-- A digit has the value that it was written for. -/
theorem digitValue?_digit {value : Nat} (small : value < 16) :
    digitValue? (digit value) = some value := by
  have all : ∀ value : Fin 16, digitValue? (digit value) = some value.val := by decide
  exact all ⟨value, small⟩

/-- A byte is the sum of its halves. -/
theorem ofNat_halves (byte : UInt8) :
    UInt8.ofNat (16 * (byte.toNat / 16) + byte.toNat % 16) = byte := by
  rw [Nat.div_add_mod, UInt8.ofNat_toNat]

/-- The digits of some bytes stand for these bytes. -/
theorem ofDigits?_digits (bytes : List UInt8) : ofDigits? (digits bytes) = some bytes := by
  induction bytes with
  | nil => rfl
  | cons byte rest inductionHypothesis =>
    have bound := byte.toNat_lt
    have high : digitValue? (digit (byte.toNat / 16)) = some (byte.toNat / 16) :=
      digitValue?_digit (by omega)
    have low : digitValue? (digit (byte.toNat % 16)) = some (byte.toNat % 16) :=
      digitValue?_digit (by omega)
    change ofDigits? (digit (byte.toNat / 16) :: digit (byte.toNat % 16) :: digits rest)
      = some (byte :: rest)
    simp only [ofDigits?, high, low, inductionHypothesis, bind, Option.bind, pure, ofNat_halves]

/-- Bytes that are written with the same digits are the same. -/
theorem digits_inj {first second : List UInt8} (same : digits first = digits second) :
    first = second :=
  Option.some.inj (by rw [← ofDigits?_digits first, same, ofDigits?_digits])

/-- The text of some bytes is read back. -/
@[simp] theorem decode?_encode (bytes : List UInt8) : decode? (encode bytes) = some bytes := by
  rw [decode?, encode, String.toList_ofList, ofDigits?_digits]

/-- The digits of both cases. -/
def alphabet : List Char :=
  "0123456789abcdefABCDEF".toList

/-- A character with a value is one of the first hundred and twenty-eight. -/
theorem toNat_lt_of_digitValue? {c : Char} {value : Nat} (given : digitValue? c = some value) :
    c.toNat < 128 := by
  simp only [digitValue?, Char.le_def, UInt32.le_iff_toNat_le] at given
  have ends : '9'.val.toNat = 57 ∧ 'f'.val.toNat = 102 ∧ 'F'.val.toNat = 70 := by decide
  unfold Char.toNat
  split at given
  · omega
  · split at given
    · omega
    · split at given
      · omega
      · simp at given

/-- A character with a value is a digit of either case, and the one written for the value is of lower
case; of values below ten there is one digit only. -/
theorem digit_of_digitValue? {c : Char} {value : Nat} (given : digitValue? c = some value) :
    value < 16 ∧ c ∈ alphabet ∧ digit value = c.toLower ∧ (value < 10 → digit value = c) := by
  have all : ∀ n : Fin 128, ∀ v ∈ digitValue? (Char.ofNat n.val),
      v < 16 ∧ Char.ofNat n.val ∈ alphabet ∧ digit v = (Char.ofNat n.val).toLower ∧
        (v < 10 → digit v = Char.ofNat n.val) := by
    decide
  have found := all ⟨c.toNat, toNat_lt_of_digitValue? given⟩
  rw [Char.ofNat_toNat] at found
  exact found value given

/-- A digit has a value, which does not depend on its case. -/
theorem digitValue?_of_mem_alphabet {c : Char} (among : c ∈ alphabet) :
    ∃ value, digitValue? c = some value ∧ digitValue? c.toLower = some value := by
  -- a check of the list, as there are far too many characters for one of them all
  have checked : alphabet.all
      fun c => (digitValue? c).isSome && digitValue? c.toLower == digitValue? c := by
    decide
  have ofDigit := List.all_eq_true.1 checked c among
  rw [Bool.and_eq_true, beq_iff_eq] at ofDigit
  obtain ⟨value, valueEq⟩ := Option.isSome_iff_exists.1 ofDigit.1
  exact ⟨value, valueEq, ofDigit.2.trans valueEq⟩

/-- The digits of a byte are those of its halves. -/
theorem pair_ofNat {high low : Nat} (highSmall : high < 16) (lowSmall : low < 16) :
    pair (UInt8.ofNat (16 * high + low)) = [digit high, digit low] := by
  have value : (UInt8.ofNat (16 * high + low)).toNat = 16 * high + low := by
    rw [UInt8.toNat_ofNat']
    exact Nat.mod_eq_of_lt (by omega)
  rw [pair, value, show (16 * high + low) / 16 = high by omega,
    show (16 * high + low) % 16 = low by omega]

/-- Characters are read as bytes if they are an even number of digits. -/
theorem exists_ofDigits?_iff (characters : List Char) :
    (∃ bytes, ofDigits? characters = some bytes) ↔
      characters.length % 2 = 0 ∧ ∀ c ∈ characters, c ∈ alphabet := by
  fun_induction ofDigits? characters with
  | case1 => simp
  | case2 => simp
  | case3 high low rest inductionHypothesis =>
    simp only [bind, Option.bind_eq_some_iff, pure, Option.some.injEq, List.forall_mem_cons,
      List.length_cons]
    constructor
    · rintro ⟨_, h, highEq, l, lowEq, tail, tailEq, _⟩
      obtain ⟨even, digits⟩ := inductionHypothesis.1 ⟨tail, tailEq⟩
      exact ⟨by omega, (digit_of_digitValue? highEq).2.1, (digit_of_digitValue? lowEq).2.1, digits⟩
    · rintro ⟨even, highAmong, lowAmong, digits⟩
      obtain ⟨h, highEq, _⟩ := digitValue?_of_mem_alphabet highAmong
      obtain ⟨l, lowEq, _⟩ := digitValue?_of_mem_alphabet lowAmong
      obtain ⟨tail, tailEq⟩ := inductionHypothesis.2 ⟨by omega, digits⟩
      exact ⟨_, h, highEq, l, lowEq, tail, tailEq, rfl⟩

/-- The digits of the bytes that characters are read as are the characters in lower case. -/
theorem digits_of_ofDigits? {characters : List Char} {bytes : List UInt8}
    (given : ofDigits? characters = some bytes) :
    digits bytes = characters.map Char.toLower := by
  fun_induction ofDigits? characters generalizing bytes with
  | case1 =>
    obtain rfl := Option.some.inj given
    rfl
  | case2 => simp at given
  | case3 high low rest inductionHypothesis =>
    simp only [bind, Option.bind_eq_some_iff, pure, Option.some.injEq] at given
    obtain ⟨h, highEq, l, lowEq, tail, tailEq, rfl⟩ := given
    obtain ⟨highSmall, _, highDigit, _⟩ := digit_of_digitValue? highEq
    obtain ⟨lowSmall, _, lowDigit, _⟩ := digit_of_digitValue? lowEq
    have later := inductionHypothesis tailEq
    rw [digits, List.flatMap_cons, pair_ofNat highSmall lowSmall, highDigit, lowDigit,
      ← digits, later]
    rfl

/-- Bytes are written in digits of the alphabet. -/
theorem mem_alphabet_of_mem_digits {bytes : List UInt8} {c : Char} (among : c ∈ digits bytes) :
    c ∈ alphabet :=
  ((exists_ofDigits?_iff (digits bytes)).1 ⟨bytes, ofDigits?_digits bytes⟩).2 c among

/-- A byte is written in two digits, so that what follows it is known. -/
theorem pair_append_inj {first second : UInt8} {s t : List Char} :
    pair first ++ s = pair second ++ t ↔ first = second ∧ s = t := by
  constructor
  · intro same
    obtain ⟨pairs, rest⟩ := List.append_inj same rfl
    have bytes : digits [first] = digits [second] := by
      simpa only [digits, List.flatMap_singleton] using pairs
    exact ⟨List.head_eq_of_cons_eq (digits_inj bytes), rest⟩
  · rintro ⟨rfl, rfl⟩
    rfl

/-- A byte in the form `0x7b` takes four characters, so that what follows it is known. -/
theorem byteText_append_inj {first second : UInt8} {s t : List Char} :
    (byteText first).toList ++ s = (byteText second).toList ++ t ↔ first = second ∧ s = t := by
  simp only [byteText, String.toList_append, String.toList_ofList, List.append_assoc,
    List.append_cancel_left_eq, pair_append_inj]

/-- A character that is no digit ends the digits of bytes. -/
theorem digits_append_cons_inj {first second : List UInt8} {stop : Char} (noDigit : stop ∉ alphabet)
    {s t : List Char} :
    digits first ++ stop :: s = digits second ++ stop :: t ↔ first = second ∧ s = t := by
  have digitsOf (bytes : List UInt8) (rest : List Char) :
      (digits bytes ++ stop :: rest).takeWhile (· ∈ alphabet) = digits bytes := by
    have known : ∀ c ∈ digits bytes, decide (c ∈ alphabet) = true := fun c among =>
      decide_eq_true (mem_alphabet_of_mem_digits among)
    rw [List.takeWhile_append_of_pos known, List.takeWhile_cons_of_neg (by simpa using noDigit),
      List.append_nil]
  constructor
  · intro same
    have digitsEq : digits first = digits second := by
      rw [← digitsOf first s, same, digitsOf second t]
    rw [digitsEq, List.append_cancel_left_eq] at same
    exact ⟨digits_inj digitsEq, List.tail_eq_of_cons_eq same⟩
  · rintro ⟨rfl, rfl⟩
    rfl

end MeterBus.Hex
