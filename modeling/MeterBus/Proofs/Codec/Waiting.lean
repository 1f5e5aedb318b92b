import MeterBus.Proofs.Codec.Session
import MeterBus.Proofs.Frame.Deficit

/-!
# What a codec waits for

A codec that gives nothing keeps an incomplete buffer, or an empty one. What it remembers then is a
length that every frame with this beginning has at the least, so that it never waits for more bytes than
the longest frame has, and never for a byte that a frame in its buffer does not need. `Memory` is what
holds between two uses: more bytes may have come since the codec looked at its buffer.
-/

namespace MeterBus

namespace Frame

variable {buffer : List UInt8} {missing : Nat}

/-- An incomplete buffer and what it lacks are together no longer than the longest frame. -/
theorem length_add_missing_le (short : read buffer = .error (.incomplete (some missing))) :
    buffer.length + missing ≤ 261 := by
  obtain ⟨lacking, known, _, fits⟩ :=
    (ByteReader.frame_eq_iff.1 (read_eq_error_iff.1 short)).lacking_le
  obtain rfl : missing = lacking := Option.some.inj known
  exact fits

/-- A frame that begins with an incomplete buffer has all the bytes that this lacks. -/
theorem length_add_missing_le_of_prefix {frame : Frame} {wire : List UInt8}
    (short : read buffer = .error (.incomplete (some missing)))
    (encoded : frame.encode = .ok wire) (beginning : buffer <+: wire) :
    buffer.length + missing ≤ wire.length := by
  obtain ⟨valid, rfl⟩ := encode_eq_ok_iff.1 encoded
  obtain ⟨rest, whole⟩ := beginning
  obtain ⟨count, known, _, lacking⟩ := read_append_of_incomplete short
  obtain rfl : missing = count := Option.some.inj known
  -- with fewer bytes the frame would still be incomplete
  have enough : missing ≤ rest.length := by
    refine Nat.le_of_not_lt fun fewer => ?_
    have accepted := read_layout_append valid []
    rw [List.append_nil, ← whole, lacking rest fewer] at accepted
    cases accepted
  rw [← whole, List.length_append]
  omega

end Frame

namespace Codec

/-- What a codec remembers about its buffer: nothing, or a length that every frame has at the least which
begins with what it saw at the front. -/
inductive Memory (codec : Codec) : List UInt8 → Prop where
  | blank {buffer : List UInt8} (free : codec.required = 0) : Memory codec buffer
  | beginning {seen later : List UInt8} {missing : Nat} (nonempty : seen ≠ [])
      (short : Frame.read seen = .error (.incomplete (some missing)))
      (required : codec.required = seen.length + missing) : Memory codec (seen ++ later)

/-- Whether a codec holds an incomplete buffer, and waits for bytes that every frame with this beginning
has. -/
structure Wants (codec : Codec) (buffer : List UInt8) : Prop where
  length_le : buffer.length ≤ 260
  incomplete : ∃ missing, Frame.read buffer = .error (.incomplete missing)
  waiting : buffer.length < codec.required
  wanted : ∀ (frame : Frame) (wire : List UInt8), frame.encode = .ok wire → buffer <+: wire →
    codec.required ≤ wire.length

/-- Whether a codec that gave nothing has an empty buffer and remembers nothing, or wants what is in
its buffer. -/
def Rests (codec : Codec) (buffer : List UInt8) : Prop :=
  (buffer = [] ∧ codec.required = 0) ∨ codec.Wants buffer

variable {codec : Codec} {buffer : List UInt8} {missing : Nat}

/-- A codec that requires exactly what its incomplete buffer lacks wants it. -/
theorem Wants.of_incomplete (short : Frame.read buffer = .error (.incomplete (some missing)))
    (required : codec.required = buffer.length + missing) : codec.Wants buffer := by
  have longest := Frame.length_add_missing_le short
  obtain ⟨count, known, positive, _⟩ := Frame.read_append_of_incomplete short
  obtain rfl : missing = count := Option.some.inj known
  constructor
  · omega
  · exact ⟨_, short⟩
  · omega
  · intro frame wire encoded beginning
    rw [required]
    exact Frame.length_add_missing_le_of_prefix short encoded beginning

namespace Memory

/-- What a codec remembers is no longer than the longest frame. -/
theorem required_le (memory : codec.Memory buffer) : codec.required ≤ 261 := by
  cases memory with
  | blank free => omega
  | beginning _ short required =>
    rw [required]
    exact Frame.length_add_missing_le short

/-- Nothing is remembered about an empty buffer. -/
theorem required_eq_zero (memory : codec.Memory []) : codec.required = 0 := by
  generalize empty : ([] : List UInt8) = buffer at memory
  cases memory with
  | blank free => exact free
  | beginning nonempty => exact absurd (List.append_eq_nil_iff.1 empty.symm).1 nonempty

/-- What is remembered stays true when more bytes come. -/
theorem append (memory : codec.Memory buffer) (suffix : List UInt8) :
    codec.Memory (buffer ++ suffix) := by
  cases memory with
  | blank free => exact .blank free
  | beginning nonempty short required =>
    rw [List.append_assoc]
    exact .beginning nonempty short required

/-- A buffer that is remembered to be too short is wanted. -/
theorem wants (memory : codec.Memory buffer) (short : buffer.length < codec.required) :
    codec.Wants buffer := by
  cases memory with
  | blank free => omega
  | @beginning seen later missing _ incomplete required =>
    rw [required, List.length_append] at short
    obtain ⟨count, known, _, lacking⟩ := Frame.read_append_of_incomplete incomplete
    obtain rfl : missing = count := Option.some.inj known
    apply Wants.of_incomplete (lacking later (by omega))
    rw [required, List.length_append]
    omega

end Memory

/-- A look leaves a codec that remembers what it saw, and that rests if nothing is given. An empty
buffer must not have been waited for. -/
theorem look_memory (ended : Bool) (codec : Codec) (reported : List Event) (buffer : List UInt8)
    (free : buffer = [] → codec.required = 0) :
    (look ended codec reported buffer).codec.Memory (look ended codec reported buffer).buffer ∧
      ((look ended codec reported buffer).result = .ok none →
        (look ended codec reported buffer).codec.Rests (look ended codec reported buffer).buffer) := by
  induction buffer generalizing codec reported with
  | nil => exact ⟨.blank (free rfl), fun _ => .inl ⟨rfl, free rfl⟩⟩
  | cons byte rest inductionHypothesis =>
    have behind (reason : DropReason) := inductionHypothesis codec.afterDrop
      (codec.dropEvent reason byte :: reported) (fun _ => rfl)
    rw [look]
    split
    · exact ⟨.blank rfl, by simp⟩
    · next missing short =>
      split
      · exact behind _
      · obtain ⟨count, rfl, _⟩ := Frame.read_append_of_incomplete short
        have remembered : Memory { codec with required := (byte :: rest).length + count }
            ((byte :: rest) ++ []) := .beginning (List.cons_ne_nil _ _) short rfl
        rw [List.append_nil] at remembered
        exact ⟨remembered, fun _ => .inr (.of_incomplete short rfl)⟩
    · split
      · exact behind _
      · exact ⟨.blank rfl, by simp⟩

/-- Decoding leaves a codec that remembers what it saw, and that rests if nothing is given. -/
theorem decode_memory (memory : codec.Memory buffer) :
    (codec.decode buffer).codec.Memory (codec.decode buffer).buffer ∧
      ((codec.decode buffer).result = .ok none →
        (codec.decode buffer).codec.Rests (codec.decode buffer).buffer) := by
  unfold decode
  split
  · next waiting => exact ⟨memory, fun _ => .inr (memory.wants ((isWaiting_iff ..).1 waiting))⟩
  · apply look_memory
    rintro rfl
    exact memory.required_eq_zero

/-- Decoding at the end of the input leaves a codec that remembers what it saw. -/
theorem decodeEnd_memory (memory : codec.Memory buffer) :
    (codec.decodeEnd buffer).codec.Memory (codec.decodeEnd buffer).buffer := by
  unfold decodeEnd
  split
  · split
    · exact memory
    · split
      · exact (look_memory _ _ _ _ fun _ => rfl).1
      · exact (look_memory _ _ _ _ (by simp)).1
  · have remembered := (decode_memory memory).1
    dsimp only
    split
    · exact remembered
    · exact remembered

/-- Every use leaves a codec that remembers what it saw. -/
theorem perform_memory (memory : codec.Memory buffer) (operation : Operation) :
    (codec.perform buffer operation).codec.Memory (codec.perform buffer operation).buffer := by
  cases operation with
  | append content => exact memory.append content
  | decode => exact (decode_memory memory).1
  | decodeEnd => exact decodeEnd_memory memory
  | encode frame =>
    simp only [perform, encode]
    cases frame.encode with
    | ok wire => exact memory.append wire
    | error cause => exact memory

/-- In the whole course of a session, the codec remembers what it saw. -/
theorem Session.memory_after (resync : Bool) (operations : List Operation) :
    ((start resync).after operations).codec.Memory ((start resync).after operations).buffer :=
  after_keeps (motive := fun _ session => session.codec.Memory session.buffer)
    (fun _ _ operation memory => perform_memory memory operation)
    (.blank (by cases resync <;> rfl)) operations

/-- A codec never requires more bytes than the longest frame has. Where decoding gives nothing, the
buffer is empty and nothing is required, or the buffer is incomplete and shorter than required, and every
frame that begins like it has the required bytes. A resynchronising codec does not fail, and at the end
of the input it gives nothing only when nothing is left. -/
theorem waiting_is_bounded (resync : Bool) (operations : List Operation) :
    let session := (Session.start resync).after operations
    session.codec.required ≤ 261 ∧
    ((session.codec.decode session.buffer).result = .ok none →
      (session.use .decode).codec.Rests (session.use .decode).buffer) ∧
    (resync = true →
      (∀ failure, (session.codec.decode session.buffer).result ≠ .error failure) ∧
      (∀ failure, (session.codec.decodeEnd session.buffer).result ≠ .error failure) ∧
      ((session.codec.decodeEnd session.buffer).result = .ok none →
        (session.use .decodeEnd).buffer = [])) := by
  intro session
  have memory : session.codec.Memory session.buffer := Session.memory_after resync operations
  have sound : session.Sound resync := Session.sound_after resync operations
  refine ⟨memory.required_le, (decode_memory memory).2, ?_⟩
  rintro rfl
  have unfailing {ended dropped rest outcome}
      (found : Finding ended session.codec session.buffer dropped rest outcome)
      (failure : LinkError) : outcome.result ≠ .error failure := by
    intro failed
    have gives := found.gives
    rw [failed] at gives
    have strict := gives.of_error.2.1
    rw [sound.mode] at strict
    cases strict
  obtain ⟨_, _, found⟩ := decode_finds sound.remembers
  obtain ⟨_, _, foundAtEnd⟩ := decodeEnd_finds sound.remembers
  refine ⟨unfailing found, unfailing foundAtEnd, ?_⟩
  intro nothing
  have gives := foundAtEnd.gives
  rw [nothing] at gives
  obtain ⟨left, empty | ⟨flowing, _⟩⟩ := gives.of_none
  · exact left.trans empty
  · cases flowing

/-- Behind noise, a header that announces the longest body is waited for. At the end of the input
nothing is left of it. -/
theorem waiting_is_bounded_behind_longest_header :
    let hearing : List Operation := [.append [0x00, 0x68, 0xFF, 0xFF, 0x68], .decode, .append [0xE5]]
    let session := (Session.start true).after hearing
    let behind := session.use .decode
    (session.codec.decode session.buffer).result = .ok none ∧
      behind.buffer = [0x68, 0xFF, 0xFF, 0x68, 0xE5] ∧ behind.codec.required = 259 ∧
      behind.codec.Rests behind.buffer ∧
      (∀ failure, (session.codec.decodeEnd session.buffer).result ≠ .error failure) := by
  intro hearing session behind
  have nothing : (session.codec.decode session.buffer).result = .ok none := rfl
  obtain ⟨_, resting, unfailing⟩ := waiting_is_bounded true hearing
  exact ⟨nothing, rfl, rfl, resting nothing, (unfailing rfl).2.1⟩

end Codec

end MeterBus
