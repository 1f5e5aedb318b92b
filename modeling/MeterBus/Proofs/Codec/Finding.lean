import MeterBus.Codec
import MeterBus.Proofs.Frame.Verdict

/-!
# What a codec finds in its buffer

A look at a buffer drops some bytes from the front, which it may only do in front of a bad verdict,
and then gives what the verdict on the rest allows. `Finding` says all of this and does not mention
the memory of the codec: `decode_finds` and `decodeEnd_finds` hold of every codec whose memory is
right about its buffer, and such a memory stays right while the buffer grows.
-/

namespace MeterBus

namespace Codec

/-- Whether a byte is dropped on this verdict on the buffer that it heads. -/
def Drops (ended resync : Bool) : Except ReadError (Nat × Frame) → Prop
  | .ok _ => False
  | .error (.incomplete _) => ended = true ∧ resync = true
  | .error (.invalid _) => resync = true

/-- Whether some bytes are dropped one after the other with these bytes behind them. -/
def Skips (ended resync : Bool) (rest : List UInt8) : List UInt8 → Prop
  | [] => True
  | byte :: dropped =>
    Drops ended resync (Frame.read (byte :: (dropped ++ rest))) ∧ Skips ended resync rest dropped

/-- Only resynchronising codecs drop bytes. -/
theorem Drops.resync {ended resync : Bool} {verdict : Except ReadError (Nat × Frame)}
    (bad : Drops ended resync verdict) : resync = true := by
  rcases verdict with (_ | _) | _
  · exact bad.2
  · exact bad
  · exact bad.elim

/-- A strict codec skips nothing. -/
theorem Skips.eq_nil {ended : Bool} {rest dropped : List UInt8}
    (skips : Skips ended false rest dropped) : dropped = [] := by
  cases dropped with
  | nil => rfl
  | cons byte others => exact absurd skips.1.resync (by simp)

/-- What is given for bytes of which the first is not dropped, and what is left of them. -/
inductive Gives (ended resync : Bool) (rest : List UInt8) :
    Except LinkError (Option Frame) → List UInt8 → Prop where
  /-- The frame at the front is taken off. -/
  | frame {consumed frame} (accepted : Frame.read rest = .ok (consumed, frame)) :
      Gives ended resync rest (.ok (some frame)) (rest.drop consumed)
  /-- Nothing is left to look at. -/
  | nothing (empty : rest = []) : Gives ended resync rest (.ok none) []
  /-- The rest of a frame may still come. -/
  | waiting {missing} (some : rest ≠ [])
      (short : Frame.read rest = .error (.incomplete missing)) (flowing : ended = false) :
      Gives ended resync rest (.ok none) rest
  /-- The rest of a frame cannot come any more. -/
  | truncated {missing} (some : rest ≠ [])
      (short : Frame.read rest = .error (.incomplete missing)) (ending : ended = true)
      (strict : resync = false) : Gives ended resync rest (.error .truncated) rest
  /-- No frame starts here. -/
  | malformed {cause} (refused : Frame.read rest = .error (.invalid cause))
      (strict : resync = false) : Gives ended resync rest (.error (.malformed cause)) rest

/-- A frame that is given stood at the front, and what stood behind it is left. -/
theorem Gives.of_frame {ended resync : Bool} {rest left : List UInt8} {frame : Frame}
    (gives : Gives ended resync rest (.ok (some frame)) left) :
    ∃ consumed, Frame.read rest = .ok (consumed, frame) ∧ left = rest.drop consumed := by
  cases gives with
  | frame accepted => exact ⟨_, accepted, rfl⟩

/-- Where nothing is given, nothing is left or the rest of a frame may still come. -/
theorem Gives.of_none {ended resync : Bool} {rest left : List UInt8}
    (gives : Gives ended resync rest (.ok none) left) :
    left = rest ∧
      (rest = [] ∨ ended = false ∧ ∃ missing, Frame.read rest = .error (.incomplete missing)) := by
  cases gives with
  | nothing empty => exact ⟨empty.symm, .inl empty⟩
  | waiting some short flowing => exact ⟨rfl, .inr ⟨flowing, _, short⟩⟩

/-- Only a strict codec fails, and leaves the bytes that it refuses. -/
theorem Gives.of_error {ended resync : Bool} {rest left : List UInt8} {failure : LinkError}
    (gives : Gives ended resync rest (.error failure) left) :
    left = rest ∧ resync = false ∧
      ((∃ cause, failure = .malformed cause ∧ Frame.read rest = .error (.invalid cause)) ∨
        (failure = .truncated ∧ ended = true ∧ rest ≠ [] ∧
          ∃ missing, Frame.read rest = .error (.incomplete missing))) := by
  cases gives with
  | truncated some short ending strict =>
    exact ⟨rfl, strict, .inr ⟨rfl, ending, some, _, short⟩⟩
  | malformed refused strict => exact ⟨rfl, strict, .inl ⟨_, rfl, refused⟩⟩

/-- Where no frame is given, none can be read off what is left. -/
theorem Gives.failed {ended resync : Bool} {rest left : List UInt8}
    {result : Except LinkError (Option Frame)} (gives : Gives ended resync rest result left)
    (frameless : ∀ frame, result ≠ .ok (some frame)) :
    ∃ reason, Frame.read left = .error reason := by
  cases gives with
  | frame accepted => exact absurd rfl (frameless _)
  | nothing empty => exact ⟨_, Frame.read_nil⟩
  | waiting some short flowing => exact ⟨_, short⟩
  | truncated some short ending strict => exact ⟨_, short⟩
  | malformed refused strict => exact ⟨_, refused⟩

/-- Whether the memory of a codec is right: a buffer that it finds too short is the start of a frame
that lacks at least the bytes up to the required length. -/
def Remembers (codec : Codec) (buffer : List UInt8) : Prop :=
  buffer.length < codec.required →
    ∃ missing, Frame.read buffer = .error (.incomplete (some missing)) ∧
      codec.required ≤ buffer.length + missing

/-- What a look finds: it splits the buffer into what it drops and the rest, and gives what the rest
allows. -/
structure Finding (ended : Bool) (codec : Codec) (buffer dropped rest : List UInt8)
    (outcome : Outcome) : Prop where
  split : buffer = dropped ++ rest
  skips : Skips ended codec.resync rest dropped
  gives : Gives ended codec.resync rest outcome.result outcome.buffer
  mode : outcome.codec.resync = codec.resync
  counted : outcome.codec.discarded = codec.discarded + dropped.length
  remembers : outcome.codec.Remembers outcome.buffer

/-- A strict codec finds what stands at the front of its buffer, and drops nothing. -/
theorem Finding.of_strict {ended : Bool} {codec : Codec} {buffer dropped rest : List UInt8}
    {outcome : Outcome} (found : Finding ended codec buffer dropped rest outcome)
    (strict : codec.resync = false) :
    dropped = [] ∧ buffer = rest ∧ outcome.codec.discarded = codec.discarded := by
  have nothing := (strict ▸ found.skips).eq_nil
  have split := found.split
  have counted := found.counted
  rw [nothing, List.nil_append] at split
  rw [nothing, List.length_nil, Nat.add_zero] at counted
  exact ⟨nothing, split, counted⟩

/-- A codec that requires nothing is right about every buffer. -/
theorem remembers_of_required_eq_zero {codec : Codec} (free : codec.required = 0)
    (buffer : List UInt8) : codec.Remembers buffer := by
  intro short
  rw [free] at short
  exact absurd short (Nat.not_lt_zero _)

/-- A codec that waits for the missing bytes of a frame is right about its buffer. -/
theorem remembers_waiting {buffer : List UInt8} {missing : Option Nat}
    (short : Frame.read buffer = .error (.incomplete missing)) (codec : Codec) :
    Remembers { codec with required := buffer.length + missing.getD 1 } buffer := by
  intro _
  obtain ⟨count, rfl, _⟩ := Frame.read_append_of_incomplete short
  exact ⟨count, short, Nat.le_refl _⟩

/-- What a codec remembers stays right when more bytes come. -/
theorem Remembers.append {codec : Codec} {buffer : List UInt8} (remembers : codec.Remembers buffer)
    (suffix : List UInt8) : codec.Remembers (buffer ++ suffix) := by
  intro short
  rw [List.length_append] at short
  obtain ⟨missing, incomplete, enough⟩ := remembers (by omega)
  obtain ⟨count, known, _, lacking⟩ := Frame.read_append_of_incomplete incomplete
  obtain rfl : missing = count := Option.some.inj known
  refine ⟨missing - suffix.length, lacking suffix (by omega), ?_⟩
  rw [List.length_append]
  omega

/-- A byte dropped in front of a finding. -/
theorem Finding.cons {ended : Bool} {codec : Codec} {buffer dropped rest : List UInt8}
    {outcome : Outcome} (found : Finding ended codec.afterDrop buffer dropped rest outcome)
    {byte : UInt8} (bad : Drops ended codec.resync (Frame.read (byte :: buffer))) :
    Finding ended codec (byte :: buffer) (byte :: dropped) rest outcome where
  split := by rw [found.split, List.cons_append]
  skips := ⟨by rw [← found.split]; exact bad, found.skips⟩
  gives := found.gives
  mode := found.mode
  counted := by
    have counted := found.counted
    simp only [afterDrop] at counted
    rw [counted, List.length_cons]
    omega
  remembers := found.remembers

/-- A look at the whole buffer finds what stands in it. At the end of the input only
resynchronising codecs look like this. -/
theorem look_finds (ended : Bool) (codec : Codec) (reported : List Event) (buffer : List UInt8)
    (dropping : ended = true → codec.resync = true) (remembers : codec.Remembers buffer) :
    ∃ dropped rest, Finding ended codec buffer dropped rest (look ended codec reported buffer) := by
  induction buffer generalizing codec reported with
  | nil =>
    exact ⟨[], [], ⟨rfl, trivial, .nothing rfl, rfl, rfl, remembers⟩⟩
  | cons byte rest inductionHypothesis =>
    have behind (reason : DropReason)
        (bad : Drops ended codec.resync (Frame.read (byte :: rest))) :
        ∃ dropped others, Finding ended codec (byte :: rest) dropped others
          (look ended codec.afterDrop (codec.dropEvent reason byte :: reported) rest) := by
      obtain ⟨dropped, others, found⟩ := inductionHypothesis codec.afterDrop
        (codec.dropEvent reason byte :: reported) dropping (remembers_of_required_eq_zero rfl rest)
      exact ⟨byte :: dropped, others, found.cons bad⟩
    rw [look]
    split
    · next consumed frame accepted =>
      exact ⟨[], byte :: rest, rfl, trivial, .frame accepted, rfl, rfl,
        remembers_of_required_eq_zero rfl _⟩
    · next missing short =>
      split
      · next ending =>
        rw [Bool.and_eq_true] at ending
        exact behind .truncated (by rw [short]; exact ending)
      · next waits =>
        have flowing : ended = false := by
          cases ended with
          | false => rfl
          | true => simp [dropping rfl] at waits
        exact ⟨[], byte :: rest, rfl, trivial, .waiting (List.cons_ne_nil _ _) short flowing, rfl,
          rfl, remembers_waiting short codec⟩
    · next cause refused =>
      split
      · next resync =>
        exact behind (.invalid cause) (by rw [refused]; exact resync)
      · next strict =>
        exact ⟨[], byte :: rest, rfl, trivial, .malformed refused (by simpa using strict), rfl, rfl,
          remembers_of_required_eq_zero rfl _⟩

/-- A buffer that a right memory finds too short is the start of a frame, or empty. -/
theorem Remembers.incomplete {codec : Codec} {buffer : List UInt8}
    (remembers : codec.Remembers buffer) (waiting : codec.isWaiting buffer) :
    ∃ missing, Frame.read buffer = .error (.incomplete missing) := by
  rw [isWaiting_iff] at waiting
  obtain ⟨missing, incomplete, _⟩ := remembers waiting
  exact ⟨some missing, incomplete⟩

/-- Decoding finds what stands in the buffer, whatever the codec remembers. -/
theorem decode_finds {codec : Codec} {buffer : List UInt8} (remembers : codec.Remembers buffer) :
    ∃ dropped rest, Finding false codec buffer dropped rest (decode codec buffer) := by
  unfold decode
  split
  · next waiting =>
    obtain ⟨missing, short⟩ := remembers.incomplete waiting
    by_cases empty : buffer = []
    · exact ⟨[], buffer, rfl, trivial, empty ▸ .nothing rfl, rfl, rfl, remembers⟩
    · exact ⟨[], buffer, rfl, trivial, .waiting empty short rfl, rfl, rfl, remembers⟩
  · exact look_finds false codec [] buffer (by simp) remembers

/-- Decoding at the end of the input finds what stands in the buffer. -/
theorem decodeEnd_finds {codec : Codec} {buffer : List UInt8}
    (remembers : codec.Remembers buffer) :
    ∃ dropped rest, Finding true codec buffer dropped rest (decodeEnd codec buffer) := by
  unfold decodeEnd
  split
  · next resync =>
    split
    · exact ⟨[], [], rfl, trivial, .nothing rfl, rfl, rfl, remembers⟩
    · next byte rest =>
      split
      · next waiting =>
        obtain ⟨missing, short⟩ := remembers.incomplete waiting
        obtain ⟨dropped, others, found⟩ := look_finds true codec.afterDrop
          [codec.dropEvent .truncated byte] rest (fun _ => resync)
          (remembers_of_required_eq_zero rfl rest)
        exact ⟨byte :: dropped, others, found.cons (by rw [short]; exact ⟨rfl, resync⟩)⟩
      · exact look_finds true codec [] (byte :: rest) (fun _ => resync) remembers
  · next strict =>
    have strict : codec.resync = false := by simpa using strict
    obtain ⟨dropped, rest, found⟩ := decode_finds remembers
    obtain ⟨rfl, rfl, _⟩ := found.of_strict strict
    refine ⟨[], buffer, ?_⟩
    -- only an incomplete frame is told apart from what decoding gives before the end
    generalize decode codec buffer = outcome at found ⊢
    obtain ⟨result, after, left, events⟩ := outcome
    obtain ⟨_, _, gives, mode, counted, remembering⟩ := found
    cases gives with
    | frame accepted =>
      exact ⟨rfl, trivial, .frame accepted, mode, counted, remembering⟩
    | nothing empty =>
      exact ⟨rfl, trivial, .nothing empty, mode, counted, remembering⟩
    | waiting some short _ =>
      cases left with
      | nil => exact absurd rfl some
      | cons byte others =>
        exact ⟨rfl, trivial, .truncated some short rfl strict, mode, counted, remembering⟩
    | truncated some short ending _ => exact absurd ending (by simp)
    | malformed refused _ =>
      exact ⟨rfl, trivial, .malformed refused strict, mode, counted, remembering⟩

end Codec

end MeterBus
