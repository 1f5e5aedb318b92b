import MeterBus.Frame.Accepted

/-!
# Verdicts are final

What the readers say about a buffer stays right while the buffer grows. An accepted frame and a
refusal are final, and a reader that lacks some number of bytes goes on lacking the rest of them
until all have come. `ByteReader.Streaming` puts the three laws together; it holds of the elementary
readers and is kept by doing one reader after the other, so that it holds of the reader of frames.
-/

namespace MeterBus

namespace ByteReader

variable {α β : Type}

/-- The laws of a reader whose verdicts are final. -/
structure Streaming (reader : ByteReader α) : Prop where
  /-- What was read stays read, whatever comes behind it. -/
  ok_append : ∀ {bytes value rest}, reader bytes = .ok (value, rest) →
    ∀ suffix, reader (bytes ++ suffix) = .ok (value, rest ++ suffix)
  /-- What was refused stays refused for the same cause. -/
  invalid_append : ∀ {bytes cause}, reader bytes = .error (.invalid cause) →
    ∀ suffix, reader (bytes ++ suffix) = .error (.invalid cause)
  /-- The number of missing bytes is known and counts down as they come. -/
  incomplete_append : ∀ {bytes missing}, reader bytes = .error (.incomplete missing) →
    ∃ count, missing = some count ∧ 0 < count ∧ ∀ suffix : List UInt8, suffix.length < count →
      reader (bytes ++ suffix) = .error (.incomplete (some (count - suffix.length)))

/-- One reader after the other. -/
def andThen (first : ByteReader α) (next : α → ByteReader β) : ByteReader β := fun bytes => do
  let (value, rest) ← first bytes
  next value rest

/-- Gives a value and reads nothing. -/
def yield (value : α) : ByteReader α := fun bytes => .ok (value, bytes)

/-- Refuses whatever is ahead. -/
def refuse (cause : FrameError) : ByteReader α := fun _ => .error (.invalid cause)

theorem streaming_yield (value : α) : Streaming (yield value) where
  ok_append := by
    rintro bytes value rest accepted suffix
    simp only [yield, Except.ok.injEq, Prod.mk.injEq] at accepted ⊢
    exact ⟨accepted.1, by rw [accepted.2]⟩
  invalid_append := by simp [yield]
  incomplete_append := by simp [yield]

theorem streaming_refuse (cause : FrameError) : Streaming (refuse cause : ByteReader α) where
  ok_append := by simp [refuse]
  invalid_append := by
    intro bytes found refused suffix
    exact refused
  incomplete_append := by simp [refuse]

theorem streaming_byte : Streaming byte where
  ok_append := by
    intro bytes value rest accepted suffix
    rw [byte_eq_ok_iff.1 accepted]
    rfl
  invalid_append := by
    intro bytes cause refused
    cases bytes <;> simp [byte] at refused
  incomplete_append := by
    intro bytes missing short
    cases bytes with
    | cons first others => simp [byte] at short
    | nil =>
      simp only [byte, Except.error.injEq, ReadError.incomplete.injEq] at short
      refine ⟨1, short.symm, Nat.one_pos, ?_⟩
      intro suffix fewer
      rw [List.length_eq_zero_iff.1 (Nat.lt_one_iff.1 fewer)]
      rfl

/-- A body is taken off a buffer that is long enough; a shorter one lacks the difference. -/
theorem take_eq (count : Nat) (bytes : List UInt8) :
    take count bytes =
      if count ≤ bytes.length then .ok (bytes.take count, bytes.drop count)
      else .error (.incomplete (some (count - bytes.length))) := by
  simp only [take, List.splitAt_eq, List.length_take]
  by_cases enough : count ≤ bytes.length
  · rw [Nat.min_eq_left enough, if_pos rfl, if_pos enough]
  · rw [Nat.min_eq_right (by omega), if_neg (by omega), if_neg enough]

theorem streaming_take (count : Nat) : Streaming (take count) where
  ok_append := by
    intro bytes value rest accepted suffix
    obtain ⟨split, length⟩ := take_eq_ok_iff.1 accepted
    exact take_eq_ok_iff.2 ⟨by rw [split, List.append_assoc], length⟩
  invalid_append := by
    intro bytes cause refused
    rw [take_eq] at refused
    split at refused <;> simp at refused
  incomplete_append := by
    intro bytes missing short
    rw [take_eq] at short
    split at short
    · simp at short
    · next lacking =>
      simp only [Except.error.injEq, ReadError.incomplete.injEq] at short
      refine ⟨count - bytes.length, short.symm, by omega, ?_⟩
      intro suffix fewer
      rw [take_eq, List.length_append, if_neg (by omega), Nat.sub_sub]

/-- Doing one reader after the other keeps the laws. -/
theorem Streaming.andThen {first : ByteReader α} {next : α → ByteReader β}
    (streaming : Streaming first) (nextStreaming : ∀ value, Streaming (next value)) :
    Streaming (andThen first next) where
  ok_append := by
    intro bytes value rest accepted suffix
    cases firstEq : first bytes with
    | error cause => simp [ByteReader.andThen, firstEq, bind, Except.bind] at accepted
    | ok result =>
      simp only [ByteReader.andThen, firstEq, bind, Except.bind] at accepted
      have behind := (nextStreaming result.1).ok_append accepted suffix
      simpa only [ByteReader.andThen, streaming.ok_append firstEq suffix, bind, Except.bind]
        using behind
  invalid_append := by
    intro bytes cause refused suffix
    cases firstEq : first bytes with
    | error found =>
      simp only [ByteReader.andThen, firstEq, bind, Except.bind, Except.error.injEq] at refused
      rw [refused] at firstEq
      simp only [ByteReader.andThen, streaming.invalid_append firstEq suffix, bind, Except.bind]
    | ok result =>
      simp only [ByteReader.andThen, firstEq, bind, Except.bind] at refused
      have behind := (nextStreaming result.1).invalid_append refused suffix
      simpa only [ByteReader.andThen, streaming.ok_append firstEq suffix, bind, Except.bind]
        using behind
  incomplete_append := by
    intro bytes missing short
    cases firstEq : first bytes with
    | error found =>
      simp only [ByteReader.andThen, firstEq, bind, Except.bind, Except.error.injEq] at short
      rw [short] at firstEq
      obtain ⟨count, known, positive, lacking⟩ := streaming.incomplete_append firstEq
      refine ⟨count, known, positive, ?_⟩
      intro suffix fewer
      simp only [ByteReader.andThen, lacking suffix fewer, bind, Except.bind]
    | ok result =>
      simp only [ByteReader.andThen, firstEq, bind, Except.bind] at short
      obtain ⟨count, known, positive, lacking⟩ := (nextStreaming result.1).incomplete_append short
      refine ⟨count, known, positive, ?_⟩
      intro suffix fewer
      simpa only [ByteReader.andThen, streaming.ok_append firstEq suffix, bind, Except.bind]
        using lacking suffix fewer

/-- A choice that does not look ahead keeps the laws. -/
theorem Streaming.ite {condition : Prop} [Decidable condition] {left right : ByteReader α}
    (leftStreaming : Streaming left) (rightStreaming : Streaming right) :
    Streaming (if condition then left else right) := by
  split
  · exact leftStreaming
  · exact rightStreaming

/-! The readers of a frame are put together from the elementary ones. -/

theorem checksummed_eq_andThen (count : Nat) :
    checksummed count =
      andThen (take count) fun body => andThen byte fun received =>
        if checksum body = received then yield body
        else refuse (.malformedChecksum (checksum body) received) := by
  funext bytes
  simp only [checksummed, andThen, bind, Except.bind]
  split
  · rfl
  · split
    · rfl
    · split <;> rfl

theorem stop_eq_andThen :
    stop =
      andThen byte fun found =>
        if found = stopByte then yield () else refuse (.missingStop found) := by
  funext bytes
  simp only [stop, andThen, bind, Except.bind]
  split
  · rfl
  · split <;> rfl

theorem framed_eq_andThen (count : Nat) :
    framed count =
      andThen (checksummed count) fun body => andThen stop fun _ => yield (.ofBody body) :=
  rfl

theorem lengthHeader_eq_andThen :
    lengthHeader =
      andThen byte fun first => andThen byte fun second =>
        if first ≠ second then refuse (.inconsistentLength first second)
        else if first.toNat < headerLength then refuse (.lengthTooShort first)
        else andThen byte fun start =>
          if start ≠ longStart then refuse (.unexpectedStart start) else yield first.toNat := by
  funext bytes
  match bytes with
  | [] | [_] => rfl
  | first :: second :: behind =>
    simp only [lengthHeader, andThen, byte, bind, Except.bind, pure, Except.pure]
    by_cases differ : first ≠ second
    · rw [if_pos differ, if_pos differ]
      rfl
    · by_cases covers : first.toNat < headerLength
      · rw [if_neg differ, if_neg differ, if_pos covers, if_pos covers]
        rfl
      · rw [if_neg differ, if_neg differ, if_neg covers, if_neg covers]
        cases behind with
        | nil => rfl
        | cons start behind =>
          by_cases started : start ≠ longStart
          · simp only [andThen, byte, bind, Except.bind, if_pos started]
            rfl
          · simp only [andThen, byte, bind, Except.bind, if_neg started]
            rfl

theorem long_eq_andThen : long = andThen lengthHeader framed := rfl

theorem frame_eq_andThen :
    frame =
      andThen byte fun start =>
        if start = singleByte then yield .single
        else if start = shortStart then short
        else if start = longStart then long
        else refuse (.unexpectedStart start) := by
  funext bytes
  simp only [frame, andThen, bind, Except.bind]
  split
  · rfl
  · split
    · rfl
    · split
      · rfl
      · split <;> rfl

theorem streaming_framed (count : Nat) : Streaming (framed count) := by
  rw [framed_eq_andThen, checksummed_eq_andThen, stop_eq_andThen]
  refine Streaming.andThen ?_ fun body => Streaming.andThen ?_ fun _ => streaming_yield _
  · exact (streaming_take count).andThen fun body => streaming_byte.andThen fun received =>
      .ite (streaming_yield _) (streaming_refuse _)
  · exact streaming_byte.andThen fun found => .ite (streaming_yield _) (streaming_refuse _)

theorem streaming_lengthHeader : Streaming lengthHeader := by
  rw [lengthHeader_eq_andThen]
  refine streaming_byte.andThen fun first => streaming_byte.andThen fun second => ?_
  refine .ite (streaming_refuse _) (.ite (streaming_refuse _) ?_)
  exact streaming_byte.andThen fun start => .ite (streaming_refuse _) (streaming_yield _)

/-- The verdicts of the reader of frames are final. -/
theorem streaming_frame : Streaming frame := by
  rw [frame_eq_andThen, long_eq_andThen]
  refine streaming_byte.andThen fun start => .ite (streaming_yield _) (.ite ?_ (.ite ?_ ?_))
  · exact streaming_framed 2
  · exact streaming_lengthHeader.andThen streaming_framed
  · exact streaming_refuse _

end ByteReader

namespace Frame

variable {bytes : List UInt8} {consumed : Nat} {frame : Frame} {cause : FrameError}
  {missing : Option Nat}

/-- No frame is read off a buffer for the reason that the readers give. -/
theorem read_eq_error_iff {reason : ReadError} :
    read bytes = .error reason ↔ ByteReader.frame bytes = .error reason := by
  rw [read]
  cases ByteReader.frame bytes <;> simp [bind, Except.bind, pure, Except.pure]

/-- What stands behind a frame that was read does not matter. -/
theorem read_append_of_ok (accepted : read bytes = .ok (consumed, frame)) (suffix : List UInt8) :
    read (bytes ++ suffix) = .ok (consumed, frame) := by
  rw [read] at accepted ⊢
  cases readEq : ByteReader.frame bytes with
  | error reason => simp [readEq, bind, Except.bind] at accepted
  | ok result =>
    rw [readEq] at accepted
    rw [ByteReader.streaming_frame.ok_append readEq suffix]
    exact accepted

/-- A buffer that was refused stays refused for the same cause. -/
theorem read_append_of_invalid (refused : read bytes = .error (.invalid cause))
    (suffix : List UInt8) : read (bytes ++ suffix) = .error (.invalid cause) :=
  read_eq_error_iff.2
    (ByteReader.streaming_frame.invalid_append (read_eq_error_iff.1 refused) suffix)

/-- Every verdict but that bytes are missing is final. -/
theorem read_append_of_decided
    (decided : ∀ missing, read bytes ≠ .error (.incomplete missing)) (suffix : List UInt8) :
    read (bytes ++ suffix) = read bytes := by
  cases verdict : read bytes with
  | ok accepted => exact read_append_of_ok verdict suffix
  | error reason =>
    cases reason with
    | incomplete missing => exact absurd verdict (decided missing)
    | invalid cause => exact read_append_of_invalid verdict suffix

/-- A buffer that lacks some bytes goes on lacking the rest of them until all have come. -/
theorem read_append_of_incomplete (short : read bytes = .error (.incomplete missing)) :
    ∃ count, missing = some count ∧ 0 < count ∧ ∀ suffix : List UInt8, suffix.length < count →
      read (bytes ++ suffix) = .error (.incomplete (some (count - suffix.length))) := by
  obtain ⟨count, known, positive, lacking⟩ :=
    ByteReader.streaming_frame.incomplete_append (read_eq_error_iff.1 short)
  refine ⟨count, known, positive, ?_⟩
  intro suffix fewer
  exact read_eq_error_iff.2 (lacking suffix fewer)

/-- An empty buffer lacks its first byte. -/
@[simp] theorem read_nil : read [] = .error (.incomplete (some 1)) := rfl

/-- A frame is not read off an empty buffer. -/
theorem ne_nil_of_read_ok (accepted : read bytes = .ok (consumed, frame)) : bytes ≠ [] := by
  rintro rfl
  simp at accepted

/-- An empty buffer is not refused. -/
theorem ne_nil_of_read_invalid (refused : read bytes = .error (.invalid cause)) : bytes ≠ [] := by
  rintro rfl
  simp at refused

end Frame

end MeterBus
