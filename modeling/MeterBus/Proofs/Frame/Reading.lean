import MeterBus.Proofs.Frame.Layout
import MeterBus.Proofs.Frame.Verdict

/-!
# What can stand in a buffer

The readers are done one after the other, and each of them may refuse what is ahead or lack some of
it. `Framing`, `Header` and `Reading` list what can stand in a buffer, byte by byte, each with the
verdict on it. `framing`, `header` and `reading` say that the readers give these verdicts, so that
what is said about all buffers is said case by case.
-/

namespace MeterBus

/-- The bytes with which a frame starts. -/
def IsStart (byte : UInt8) : Prop :=
  byte = singleByte ∨ byte = shortStart ∨ byte = longStart

instance (byte : UInt8) : Decidable (IsStart byte) :=
  inferInstanceAs (Decidable (_ ∨ _))

/-- What opens a frame whose body has so many bytes. -/
inductive Opens : List UInt8 → Nat → Prop where
  | short : Opens [shortStart] 2
  | long {length : UInt8} (covers : headerLength ≤ length.toNat) :
      Opens [longStart, length, length, longStart] length.toNat

namespace Opens

variable {opening body : List UInt8}

/-- The frame with this body is laid out behind its opening. -/
theorem layout_ofBody (opens : Opens opening body.length) :
    (Frame.ofBody body).layout = opening ++ (body ++ [checksum body, stopByte]) := by
  generalize count : body.length = length at opens
  cases opens with
  | short => exact Frame.layout_ofBody_short count
  | @long length covers =>
    rw [Frame.layout_ofBody_long (count ▸ covers), count, UInt8.ofNat_toNat]
    rfl

/-- The frame with this body is valid. -/
theorem validate_ofBody (opens : Opens opening body.length) :
    (Frame.ofBody body).validate = .ok () := by
  generalize count : body.length = length at opens
  cases opens with
  | short => exact Frame.validate_ofBody_short count
  | @long length covers => exact Frame.validate_ofBody_long (count ▸ length.toNat_lt)

end Opens

namespace ByteReader

/-- What stands where a body of `count` bytes with its checksum and the stop byte is read. -/
inductive Framing (count : Nat) : List UInt8 → Except ReadError (Frame × List UInt8) → Prop where
  /-- A part of the body. -/
  | part {bytes : List UInt8} (short : bytes.length < count) :
      Framing count bytes (.error (.incomplete (some (count - bytes.length))))
  /-- The body alone. -/
  | bare {body : List UInt8} (whole : body.length = count) :
      Framing count body (.error (.incomplete (some 1)))
  /-- The body with another checksum than its own. -/
  | mismatched {body rest : List UInt8} {received : UInt8} (whole : body.length = count)
      (differs : received ≠ checksum body) :
      Framing count (body ++ received :: rest)
        (.error (.invalid (.malformedChecksum (checksum body) received)))
  /-- The body and its checksum. -/
  | unstopped {body : List UInt8} (whole : body.length = count) :
      Framing count (body ++ [checksum body]) (.error (.incomplete (some 1)))
  /-- The body and its checksum, and then no stop byte. -/
  | overrun {body rest : List UInt8} {found : UInt8} (whole : body.length = count)
      (differs : found ≠ stopByte) :
      Framing count (body ++ checksum body :: found :: rest)
        (.error (.invalid (.missingStop found)))
  /-- The body with all that belongs to it. -/
  | complete {body rest : List UInt8} (whole : body.length = count) :
      Framing count (body ++ checksum body :: stopByte :: rest) (.ok (.ofBody body, rest))

/-- What stands behind the start byte of a frame of variable length. -/
inductive Header : List UInt8 → Except ReadError (Nat × List UInt8) → Prop where
  /-- Nothing. -/
  | empty : Header [] (.error (.incomplete (some 1)))
  /-- The first length byte alone. -/
  | once {length : UInt8} : Header [length] (.error (.incomplete (some 1)))
  /-- Two lengths. -/
  | unequal {first second : UInt8} {rest : List UInt8} (differs : second ≠ first) :
      Header (first :: second :: rest) (.error (.invalid (.inconsistentLength first second)))
  /-- A length that does not cover the fields that every such frame has. -/
  | low {length : UInt8} {rest : List UInt8} (short : length.toNat < headerLength) :
      Header (length :: length :: rest) (.error (.invalid (.lengthTooShort length)))
  /-- The length bytes. -/
  | twice {length : UInt8} (covers : headerLength ≤ length.toNat) :
      Header [length, length] (.error (.incomplete (some 1)))
  /-- The length bytes, and then no start byte. -/
  | unstarted {length start : UInt8} {rest : List UInt8} (covers : headerLength ≤ length.toNat)
      (differs : start ≠ longStart) :
      Header (length :: length :: start :: rest) (.error (.invalid (.unexpectedStart start)))
  /-- The length bytes and the second start byte. -/
  | complete {length : UInt8} {rest : List UInt8} (covers : headerLength ≤ length.toNat) :
      Header (length :: length :: longStart :: rest) (.ok (length.toNat, rest))

/-- What stands where a frame is read. -/
inductive Reading : List UInt8 → Except ReadError (Frame × List UInt8) → Prop where
  /-- Nothing. -/
  | empty : Reading [] (.error (.incomplete (some 1)))
  /-- A lone acknowledgement. -/
  | single {rest : List UInt8} : Reading (singleByte :: rest) (.ok (.single, rest))
  /-- A byte with which no frame starts. -/
  | unknown {start : UInt8} {rest : List UInt8} (no : ¬ IsStart start) :
      Reading (start :: rest) (.error (.invalid (.unexpectedStart start)))
  /-- A header that is not accepted. -/
  | headless {bytes : List UInt8} {reason : ReadError} (header : Header bytes (.error reason)) :
      Reading (longStart :: bytes) (.error reason)
  /-- An opening, and what comes of the body that it announces. -/
  | opened {opening bytes : List UInt8} {count : Nat}
      {verdict : Except ReadError (Frame × List UInt8)} (opens : Opens opening count)
      (framing : Framing count bytes verdict) : Reading (opening ++ bytes) verdict

variable {count : Nat} {bytes : List UInt8}

section

variable {α β : Type}

@[simp] theorem ok_bind (value : α) (next : α → Except ReadError β) :
    (Except.ok value >>= next) = next value := rfl

@[simp] theorem error_bind (reason : ReadError) (next : α → Except ReadError β) :
    (Except.error reason >>= next) = .error reason := rfl

@[simp] theorem return_eq (value : α) : (pure value : Except ReadError α) = .ok value := rfl

@[simp] theorem throw_eq (reason : ReadError) :
    (throw reason : Except ReadError α) = .error reason := rfl

end

/-- Something stands wherever a framed body is read. -/
theorem exists_framing (count : Nat) (bytes : List UInt8) : ∃ verdict, Framing count bytes verdict := by
  by_cases short : bytes.length < count
  · exact ⟨_, .part short⟩
  · obtain ⟨body, behind, rfl, whole⟩ :
        ∃ body behind, bytes = body ++ behind ∧ body.length = count :=
      ⟨bytes.take count, bytes.drop count, (List.take_append_drop count bytes).symm,
        List.length_take_of_le (Nat.le_of_not_lt short)⟩
    match behind with
    | [] =>
      rw [List.append_nil]
      exact ⟨_, .bare whole⟩
    | received :: others =>
      by_cases same : received = checksum body
      · subst same
        match others with
        | [] => exact ⟨_, .unstopped whole⟩
        | found :: rest =>
          by_cases stopped : found = stopByte
          · subst stopped
            exact ⟨_, .complete whole⟩
          · exact ⟨_, .overrun whole stopped⟩
      · exact ⟨_, .mismatched whole same⟩

/-- Something stands wherever a header is read. -/
theorem exists_header (bytes : List UInt8) : ∃ verdict, Header bytes verdict := by
  match bytes with
  | [] => exact ⟨_, .empty⟩
  | [length] => exact ⟨_, .once⟩
  | first :: second :: rest =>
    by_cases same : second = first
    · subst same
      by_cases low : second.toNat < headerLength
      · exact ⟨_, .low low⟩
      · have covers := Nat.le_of_not_lt low
        match rest with
        | [] => exact ⟨_, .twice covers⟩
        | start :: behind =>
          by_cases started : start = longStart
          · subst started
            exact ⟨_, .complete covers⟩
          · exact ⟨_, .unstarted covers started⟩
    · exact ⟨_, .unequal same⟩

/-- Something stands wherever a frame is read. -/
theorem exists_reading (bytes : List UInt8) : ∃ verdict, Reading bytes verdict := by
  match bytes with
  | [] => exact ⟨_, .empty⟩
  | start :: rest =>
    by_cases known : IsStart start
    · obtain rfl | rfl | rfl := known
      · exact ⟨_, .single⟩
      · obtain ⟨verdict, framing⟩ := exists_framing 2 rest
        exact ⟨verdict, .opened .short framing⟩
      · obtain ⟨announced, header⟩ := exists_header rest
        cases announced with
        | error reason => exact ⟨_, .headless header⟩
        | ok announced =>
          cases header with
          | @complete length behind covers =>
            obtain ⟨verdict, framing⟩ := exists_framing length.toNat behind
            exact ⟨verdict, .opened (.long covers) framing⟩
    · exact ⟨_, .unknown known⟩

/-- A framed body is read as it stands there. -/
theorem framed_eq_iff {verdict : Except ReadError (Frame × List UInt8)} :
    framed count bytes = verdict ↔ Framing count bytes verdict := by
  have follows {verdict : Except ReadError (Frame × List UInt8)}
      (framing : Framing count bytes verdict) : framed count bytes = verdict := by
    have taken (body rest : List UInt8) : take body.length (body ++ rest) = .ok (body, rest) :=
      take_eq_ok_iff.2 ⟨rfl, rfl⟩
    cases framing with
    | part short =>
      simp [framed, checksummed, take_eq, Nat.not_le_of_lt short]
    | bare whole =>
      subst whole
      have all := taken bytes []
      rw [List.append_nil] at all
      simp [framed, checksummed, all, byte]
    | mismatched whole differs =>
      subst whole
      simp [framed, checksummed, taken, byte, differs.symm]
    | unstopped whole =>
      subst whole
      simp [framed, checksummed, taken, byte, stop]
    | overrun whole differs =>
      subst whole
      simp [framed, checksummed, taken, byte, stop, differs]
    | complete whole =>
      subst whole
      simp [framed, checksummed, taken, byte, stop]
  constructor
  · rintro rfl
    obtain ⟨verdict, framing⟩ := exists_framing count bytes
    rw [follows framing]
    exact framing
  · exact follows

/-- A header is read as it stands there. -/
theorem lengthHeader_eq_iff {verdict : Except ReadError (Nat × List UInt8)} :
    lengthHeader bytes = verdict ↔ Header bytes verdict := by
  have follows {verdict : Except ReadError (Nat × List UInt8)} (header : Header bytes verdict) :
      lengthHeader bytes = verdict := by
    cases header with
    | empty => rfl
    | once => rfl
    | unequal differs => simp [lengthHeader, byte, differs.symm]
    | low short => simp [lengthHeader, byte, short]
    | twice covers => simp [lengthHeader, byte, Nat.not_lt_of_le covers]
    | unstarted covers differs => simp [lengthHeader, byte, Nat.not_lt_of_le covers, differs]
    | complete covers => exact lengthHeader_eq_ok_iff.2 ⟨_, covers, rfl, rfl⟩
  constructor
  · rintro rfl
    obtain ⟨verdict, header⟩ := exists_header bytes
    rw [follows header]
    exact header
  · exact follows

/-- Behind an opening, the body that it announces is read. -/
theorem frame_append_of_opens {opening : List UInt8} (opens : Opens opening count)
    (bytes : List UInt8) : frame (opening ++ bytes) = framed count bytes := by
  cases opens with
  | short => rfl
  | @long length covers =>
    have header : lengthHeader (length :: length :: longStart :: bytes) = .ok (length.toNat, bytes) :=
      lengthHeader_eq_iff.2 (.complete covers)
    change long (length :: length :: longStart :: bytes) = framed length.toNat bytes
    simp only [long, header, ok_bind]

/-- A frame is read as it stands there. -/
theorem frame_eq_iff {verdict : Except ReadError (Frame × List UInt8)} :
    frame bytes = verdict ↔ Reading bytes verdict := by
  have follows {verdict : Except ReadError (Frame × List UInt8)} (reading : Reading bytes verdict) :
      frame bytes = verdict := by
    cases reading with
    | empty => rfl
    | single => rfl
    | unknown no =>
      simp only [IsStart, not_or] at no
      simp [frame, byte, no]
    | @headless bytes reason header =>
      change long bytes = .error reason
      simp only [long, lengthHeader_eq_iff.2 header, error_bind]
    | opened opens framing =>
      rw [frame_append_of_opens opens]
      exact framed_eq_iff.2 framing
  constructor
  · rintro rfl
    obtain ⟨verdict, reading⟩ := exists_reading bytes
    rw [follows reading]
    exact reading
  · exact follows

end ByteReader

end MeterBus
