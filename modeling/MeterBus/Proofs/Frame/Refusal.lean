import MeterBus.Proofs.Frame.Completion

/-!
# Where a buffer is refused

A buffer is refused for one byte, the first that no frame has at its position. `Fault` says which
byte that is and what cause is given for it. Without it, and however much less there is, the buffer
is incomplete; with it, all that comes behind does not matter.
-/

namespace MeterBus

namespace Frame

/-- Some bytes that may begin a frame, a byte that may not stand behind them, and the cause for which
it is refused. -/
inductive Fault : List UInt8 → UInt8 → FrameError → Prop where
  /-- At position 0, a byte with which no frame starts. -/
  | start {byte : UInt8} (no : ¬ IsStart byte) : Fault [] byte (.unexpectedStart byte)
  /-- At position 2 of a frame of variable length, another length than at position 1. -/
  | unequal {length byte : UInt8} (differs : byte ≠ length) :
      Fault [longStart, length] byte (.inconsistentLength length byte)
  /-- At position 2 of a frame of variable length, the length of position 1, if it is too low. -/
  | low {length : UInt8} (short : length.toNat < headerLength) :
      Fault [longStart, length] length (.lengthTooShort length)
  /-- At position 3 of a frame of variable length, no start byte. -/
  | unstarted {length byte : UInt8} (covers : headerLength ≤ length.toNat)
      (differs : byte ≠ longStart) :
      Fault [longStart, length, length] byte (.unexpectedStart byte)
  /-- Behind the body, which is at position 3 of a short frame and at position 4 + L of one of
  variable length L, another checksum than that of the body. -/
  | mismatched {opening body : List UInt8} {byte : UInt8} (opens : Opens opening body.length)
      (differs : byte ≠ checksum body) :
      Fault (opening ++ body) byte (.malformedChecksum (checksum body) byte)
  /-- Behind the checksum, no stop byte. -/
  | unstopped {opening body : List UInt8} {byte : UInt8} (opens : Opens opening body.length)
      (differs : byte ≠ stopByte) :
      Fault (opening ++ (body ++ [checksum body])) byte (.missingStop byte)

variable {bytes front shorter : List UInt8} {byte : UInt8} {cause : FrameError}

/-- A fault is what stands in every buffer that has it, whatever comes behind it. -/
theorem Fault.reading (fault : Fault front byte cause) (rest : List UInt8) :
    ByteReader.Reading (front ++ byte :: rest) (.error (.invalid cause)) := by
  cases fault with
  | start no => exact .unknown no
  | unequal differs => exact .headless (.unequal differs)
  | low short => exact .headless (.low short)
  | unstarted covers differs => exact .headless (.unstarted covers differs)
  | mismatched opens differs =>
    rw [List.append_assoc]
    exact .opened opens (.mismatched rfl differs)
  | unstopped opens differs =>
    rw [List.append_assoc, List.append_assoc]
    exact .opened opens (.overrun rfl differs)

/-- A buffer is refused exactly if it has a fault, and for its cause. -/
theorem read_eq_invalid_iff :
    read bytes = .error (.invalid cause) ↔
      ∃ front byte rest, bytes = front ++ byte :: rest ∧ Fault front byte cause := by
  rw [read_eq_error_iff, ByteReader.frame_eq_iff]
  constructor
  · intro reading
    cases reading with
    | @unknown start rest no => exact ⟨[], start, rest, rfl, .start no⟩
    | headless header =>
      cases header with
      | @unequal first second rest differs =>
        exact ⟨[longStart, first], second, rest, rfl, .unequal differs⟩
      | @low length rest short => exact ⟨[longStart, length], length, rest, rfl, .low short⟩
      | @unstarted length start rest covers differs =>
        exact ⟨[longStart, length, length], start, rest, rfl, .unstarted covers differs⟩
    | @opened opening bytes count _ opens framing =>
      cases framing with
      | @mismatched body rest received whole differs =>
        subst whole
        exact ⟨opening ++ body, received, rest, by simp, .mismatched opens differs⟩
      | @overrun body rest found whole differs =>
        subst whole
        exact ⟨opening ++ (body ++ [checksum body]), found, rest, by simp,
          .unstopped opens differs⟩
  · rintro ⟨front, byte, rest, rfl, fault⟩
    exact fault.reading rest

/-- What stands in front of a fault is incomplete. -/
theorem Fault.incomplete (fault : Fault front byte cause) :
    ∃ missing, read front = .error (.incomplete missing) := by
  have waiting (missing : Nat)
      (reading : ByteReader.Reading front (.error (.incomplete (some missing)))) :
      ∃ missing, read front = .error (.incomplete missing) :=
    ⟨some missing, read_eq_error_iff.2 (ByteReader.frame_eq_iff.2 reading)⟩
  cases fault with
  | start no => exact waiting 1 .empty
  | unequal differs => exact waiting 1 (.headless .once)
  | low short => exact waiting 1 (.headless .once)
  | unstarted covers differs => exact waiting 1 (.headless (.twice covers))
  | mismatched opens differs => exact waiting 1 (.opened opens (.bare rfl))
  | unstopped opens differs => exact waiting 1 (.opened opens (.unstopped rfl))

/-- The beginning of an incomplete buffer is incomplete. -/
theorem incomplete_of_prefix {missing : Option Nat}
    (short : read bytes = .error (.incomplete missing)) (beginning : shorter <+: bytes) :
    ∃ missing, read shorter = .error (.incomplete missing) := by
  obtain ⟨rest, rfl⟩ := beginning
  refine Classical.byContradiction fun decided => ?_
  rw [read_append_of_decided (not_exists.1 decided) rest] at short
  exact decided ⟨missing, short⟩

/-- A buffer is never refused for the length of its data, nor by a rule of a grammar. -/
theorem Fault.of_wire (fault : Fault front byte cause) :
    (∀ length, cause ≠ .dataTooLong length) ∧ ∀ rule, cause ≠ .grammar rule := by
  cases fault <;> exact ⟨nofun, nofun⟩

/-- A verdict is final, whatever comes behind the buffer, unless the buffer is incomplete. A buffer is
refused exactly if it has a fault. The bytes up to and with the fault are refused for the same cause,
and all that is shorter is incomplete. The causes that belong to frames to be sent and to grammars
are never given. -/
theorem refusal_points_at_fault :
    (∀ bytes suffix : List UInt8, (∀ missing, read bytes ≠ .error (.incomplete missing)) →
      read (bytes ++ suffix) = read bytes) ∧
    (∀ (bytes : List UInt8) (cause : FrameError),
      read bytes = .error (.invalid cause) ↔
        ∃ front byte rest, bytes = front ++ byte :: rest ∧ Fault front byte cause ∧
          read (front ++ [byte]) = .error (.invalid cause) ∧
          ∀ shorter, shorter <+: front ++ [byte] → shorter ≠ front ++ [byte] →
            ∃ missing, read shorter = .error (.incomplete missing)) ∧
    (∀ bytes : List UInt8, (∀ length, read bytes ≠ .error (.invalid (.dataTooLong length))) ∧
      ∀ rule, read bytes ≠ .error (.invalid (.grammar rule))) := by
  refine ⟨fun bytes suffix decided => read_append_of_decided decided suffix, ?_, ?_⟩
  · intro bytes cause
    constructor
    · intro refused
      obtain ⟨front, byte, rest, split, fault⟩ := read_eq_invalid_iff.1 refused
      refine ⟨front, byte, rest, split, fault, ?_, ?_⟩
      · exact read_eq_invalid_iff.2 ⟨front, byte, [], rfl, fault⟩
      · intro shorter beginning proper
        obtain ⟨missing, short⟩ := fault.incomplete
        obtain whole | inFront := List.prefix_concat_iff.1 beginning
        · exact absurd whole proper
        · exact incomplete_of_prefix short inFront
    · rintro ⟨front, byte, rest, split, fault, _, _⟩
      exact read_eq_invalid_iff.2 ⟨front, byte, rest, split, fault⟩
  · intro bytes
    constructor
    · intro length refused
      obtain ⟨_, _, _, _, fault⟩ := read_eq_invalid_iff.1 refused
      exact fault.of_wire.1 length rfl
    · intro rule refused
      obtain ⟨_, _, _, _, fault⟩ := read_eq_invalid_iff.1 refused
      exact fault.of_wire.2 rule rfl

/-- The checksum of a short frame is refused at position 3, where the last byte has not come yet. -/
theorem refusal_points_at_fault_at_checksum :
    (∀ missing, read [0x10, 0x7B, 0x49, 0xC5] ≠ .error (.incomplete missing)) ∧
      read ([0x10, 0x7B, 0x49, 0xC5] ++ [0x16, 0xE5]) = read [0x10, 0x7B, 0x49, 0xC5] ∧
      ∃ front byte rest, [0x10, 0x7B, 0x49, 0xC5] = front ++ byte :: rest ∧
        Fault front byte (.malformedChecksum 0xC4 0xC5) ∧
        read (front ++ [byte]) = .error (.invalid (.malformedChecksum 0xC4 0xC5)) ∧
        ∀ shorter, shorter <+: front ++ [byte] → shorter ≠ front ++ [byte] →
          ∃ missing, read shorter = .error (.incomplete missing) := by
  have refused : read [0x10, 0x7B, 0x49, 0xC5]
      = .error (.invalid (.malformedChecksum 0xC4 0xC5)) := rfl
  have decided (missing : Option Nat) :
      read [0x10, 0x7B, 0x49, 0xC5] ≠ .error (.incomplete missing) := by
    rw [refused]
    exact nofun
  exact ⟨decided, refusal_points_at_fault.1 _ _ decided, (refusal_points_at_fault.2.1 _ _).1 refused⟩

end Frame

end MeterBus
