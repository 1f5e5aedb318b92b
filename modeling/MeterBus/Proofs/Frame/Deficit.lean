import MeterBus.Proofs.Frame.Reading

/-!
# How much is missing

A buffer that is incomplete says how many bytes it still lacks. The number is that of the reader
that ran out of bytes, and later readers may lack more. It never exceeds a body that one length byte
can count, and with what has come it never exceeds the longest frame. As long as fewer bytes come,
nothing is decided, so that nothing is missed by waiting for them.
-/

namespace MeterBus

/-- A body that is announced has at least two bytes, and with its opening it leaves room for the
checksum and the stop byte of the longest frame. -/
theorem Opens.bounds {opening : List UInt8} {count : Nat} (opens : Opens opening count) :
    2 ≤ count ∧ count ≤ 255 ∧ opening.length + count ≤ 259 := by
  cases opens with
  | short => decide
  | @long length covers =>
    have counted := length.toNat_lt
    simp only [headerLength] at covers
    simp only [List.length_cons, List.length_nil]
    omega

namespace ByteReader

variable {bytes : List UInt8} {missing : Option Nat} {count : Nat}

/-- A framed body lacks no more than the body, and no more than the rest of what belongs to it. -/
theorem Framing.lacking_le (framing : Framing count bytes (.error (.incomplete missing)))
    (positive : 0 < count) :
    ∃ lacking, missing = some lacking ∧ lacking ≤ count ∧ bytes.length + lacking ≤ count + 2 := by
  cases framing with
  | part short => exact ⟨_, rfl, by omega, by omega⟩
  | bare whole => exact ⟨1, rfl, positive, by omega⟩
  | @unstopped body whole =>
    refine ⟨1, rfl, positive, ?_⟩
    rw [List.length_append, List.length_singleton]
    omega

/-- A header lacks one byte after the other. -/
theorem Header.lacking_eq (header : Header bytes (.error (.incomplete missing))) :
    missing = some 1 ∧ bytes.length ≤ 2 := by
  cases header with
  | empty => exact ⟨rfl, Nat.zero_le 2⟩
  | once => exact ⟨rfl, Nat.le_succ 1⟩
  | twice covers => exact ⟨rfl, Nat.le_refl 2⟩

/-- Where a frame is read, no more is lacking than a length byte can count, and no more than the
rest of the longest frame. -/
theorem Reading.lacking_le (reading : Reading bytes (.error (.incomplete missing))) :
    ∃ lacking, missing = some lacking ∧ lacking ≤ 255 ∧ bytes.length + lacking ≤ 261 := by
  cases reading with
  | empty => exact ⟨1, rfl, by decide, by decide⟩
  | headless header =>
    obtain ⟨rfl, short⟩ := header.lacking_eq
    refine ⟨1, rfl, by decide, ?_⟩
    rw [List.length_cons]
    omega
  | opened opens framing =>
    obtain ⟨positive, counted, fits⟩ := opens.bounds
    obtain ⟨lacking, known, ofBody, ofRest⟩ := framing.lacking_le (by omega)
    refine ⟨lacking, known, by omega, ?_⟩
    rw [List.length_append]
    omega

end ByteReader

namespace Frame

variable {bytes : List UInt8} {missing : Option Nat}

/-- An incomplete buffer knows how many bytes it lacks: at least one, at most as many as a length
byte can count, and with those that have come at most as many as the longest frame has. The number
counts down as bytes come, and whatever is decided in the end is decided with at least as many of
them. -/
theorem missing_counts_down (short : read bytes = .error (.incomplete missing)) :
    ∃ lacking, missing = some lacking ∧ 1 ≤ lacking ∧ lacking ≤ 255 ∧
      bytes.length + lacking ≤ 261 ∧
      (∀ suffix : List UInt8, suffix.length < lacking →
        read (bytes ++ suffix) = .error (.incomplete (some (lacking - suffix.length)))) ∧
      (∀ suffix : List UInt8, (∀ missing, read (bytes ++ suffix) ≠ .error (.incomplete missing)) →
        lacking ≤ suffix.length) := by
  obtain ⟨lacking, rfl, positive, counting⟩ := read_append_of_incomplete short
  obtain ⟨same, known, counted, fits⟩ :=
    (ByteReader.frame_eq_iff.1 (read_eq_error_iff.1 short)).lacking_le
  obtain rfl : lacking = same := Option.some.inj known
  refine ⟨lacking, rfl, positive, counted, fits, counting, ?_⟩
  intro suffix decided
  refine Nat.le_of_not_lt fun fewer => ?_
  exact decided _ (counting suffix fewer)

/-- Behind the longest header the whole body is missing, and one byte less with each that comes. -/
theorem missing_counts_down_at_longest_header :
    read [0x68, 0xFF, 0xFF, 0x68] = .error (.incomplete (some 255)) ∧
      ∃ lacking, some 255 = some lacking ∧ 1 ≤ lacking ∧ lacking ≤ 255 ∧
        ([0x68, 0xFF, 0xFF, 0x68] : List UInt8).length + lacking ≤ 261 ∧
        (∀ suffix : List UInt8, suffix.length < lacking →
          read ([0x68, 0xFF, 0xFF, 0x68] ++ suffix)
            = .error (.incomplete (some (lacking - suffix.length)))) ∧
        (∀ suffix : List UInt8,
          (∀ missing, read ([0x68, 0xFF, 0xFF, 0x68] ++ suffix) ≠ .error (.incomplete missing)) →
          lacking ≤ suffix.length) :=
  ⟨rfl, missing_counts_down rfl⟩

end Frame

end MeterBus
