import MeterBus.Proofs.Codec.Taking
import MeterBus.Proofs.Frame.Reading
import MeterBus.Proofs.Frame.RoundTrip

/-!
# Frames on a noisy line

A sender lays out frames, noise comes between them, and the line delivers all of it in chunks. As
long as no byte of the noise starts a frame, a receiver that takes the frames off each chunk as it
comes gets back what was sent. `Carries` says what a stream holds without regard to chunks, and
`Hearing` is what holds of the receiver in the middle of the stream: asking once keeps it, and so does
asking until nothing is given, and so does one chunk after the other.
-/

namespace MeterBus

/-- Bytes with which no frame starts. -/
structure Noise where
  bytes : List UInt8
  quiet : ∀ byte ∈ bytes, ¬ IsStart byte

/-- No noise. -/
def Noise.silence : Noise := ⟨[], by simp⟩

/-- A frame that fits the wire format, and the noise in front of it. -/
structure Burst where
  noise : Noise
  frame : Frame
  valid : frame.validate = .ok ()

/-- The number of bytes of noise among some bursts and behind them. -/
def noiseLength (bursts : List Burst) (last : Noise) : Nat :=
  (bursts.map (·.noise.bytes.length)).sum + last.bytes.length

namespace Codec

/-- The bytes of some bursts, the frames laid out by a codec behind their noise. -/
def transmit (sender : Codec) : List Burst → List UInt8
  | [] => []
  | burst :: later => (sender.encode burst.frame burst.noise.bytes).buffer ++ sender.transmit later

/-- What comes of feeding a codec. -/
structure Fed where
  frames : List Frame
  /-- The answers that gave no frame, one for each chunk. -/
  pauses : List (Except LinkError (Option Frame))
  codec : Codec
  buffer : List UInt8

/-- Asks for frames until none is given. -/
def drain (codec : Codec) (buffer : List UInt8) : Fed :=
  match _given : (codec.decode buffer).result with
  | .ok (some frame) =>
    let others := drain (codec.decode buffer).codec (codec.decode buffer).buffer
    { others with frames := frame :: others.frames }
  | answer => ⟨[], [answer], (codec.decode buffer).codec, (codec.decode buffer).buffer⟩
termination_by buffer.length
decreasing_by exact length_decode_lt _given

/-- Appends some chunks to the buffer, and asks for frames behind each of them. -/
def feed (codec : Codec) (buffer : List UInt8) : List (List UInt8) → Fed
  | [] => ⟨[], [], codec, buffer⟩
  | chunk :: later =>
    let drained := codec.drain (buffer ++ chunk)
    let others := feed drained.codec drained.buffer later
    { others with
      frames := drained.frames ++ others.frames
      pauses := drained.pauses ++ others.pauses }

/-- Whether a codec gave these frames, never failed and has nothing left. -/
structure Fed.Delivers (fed : Fed) (frames : List Frame) : Prop where
  frames_eq : fed.frames = frames
  unfailing : ∀ pause ∈ fed.pauses, pause = .ok none
  emptied : fed.buffer = []

end Codec

/-- Whether a stream is made of the layouts of valid frames, of which these are the canonical forms,
and of so many bytes with which no frame starts. -/
inductive Carries : List UInt8 → List Frame → Nat → Prop where
  | nothing : Carries [] [] 0
  | noise {byte : UInt8} {rest : List UInt8} {frames : List Frame} {count : Nat}
      (quiet : ¬ IsStart byte) (later : Carries rest frames count) :
      Carries (byte :: rest) frames (count + 1)
  | frame {frame : Frame} {rest : List UInt8} {frames : List Frame} {count : Nat}
      (valid : frame.validate = .ok ()) (later : Carries rest frames count) :
      Carries (frame.layout ++ rest) (frame.canonical :: frames) count

namespace Carries

variable {ended resync : Bool} {stream before after rest dropped : List UInt8}
  {frames : List Frame} {noise count : Nat} {given : Option Frame}

/-- Noise may come in front of any stream. -/
theorem append_noise (noise : Noise) (later : Carries rest frames count) :
    Carries (noise.bytes ++ rest) frames (noise.bytes.length + count) := by
  obtain ⟨bytes, quiet⟩ := noise
  induction bytes with
  | nil => simpa using later
  | cons byte others inductionHypothesis =>
    have behind := inductionHypothesis fun byte among => quiet byte (List.mem_cons_of_mem _ among)
    rw [List.length_cons, Nat.add_right_comm]
    exact .noise (quiet byte (List.mem_cons_self ..)) behind

/-- A transmission carries the frames of its bursts amid all their noise. -/
theorem of_transmit (sender : Codec) (bursts : List Burst) (last : Noise) :
    Carries (sender.transmit bursts ++ last.bytes) (bursts.map (·.frame.canonical))
      (noiseLength bursts last) := by
  induction bursts with
  | nil => simpa [Codec.transmit, noiseLength] using append_noise last .nothing
  | cons burst later inductionHypothesis =>
    have framed := append_noise burst.noise (.frame burst.valid inductionHypothesis)
    have laidOut := congrArg Codec.Outcome.buffer
      (sender.encode_of_validate burst.noise.bytes burst.valid)
    rw [Codec.transmit, laidOut]
    simpa [noiseLength, Nat.add_assoc] using framed

/-- At the front of a stream stands a byte of noise or a frame, unless it is empty. -/
theorem read_cases (carries : Carries stream frames noise) :
    (stream = [] ∧ frames = [] ∧ noise = 0) ∨
      (∃ byte rest count cause, stream = byte :: rest ∧ noise = count + 1 ∧
        Frame.read stream = .error (.invalid cause) ∧ Carries rest frames count) ∨
      ∃ consumed frame later, Frame.read stream = .ok (consumed, frame) ∧
        frames = frame :: later ∧ Carries (stream.drop consumed) later noise := by
  cases carries with
  | nothing => exact .inl ⟨rfl, rfl, rfl⟩
  | @noise byte rest _ count quiet later =>
    have refused : Frame.read (byte :: rest) = .error (.invalid (.unexpectedStart byte)) :=
      Frame.read_eq_error_iff.2 (ByteReader.frame_eq_iff.2 (.unknown quiet))
    exact .inr (.inl ⟨byte, rest, count, _, rfl, rfl, refused, later⟩)
  | @frame frame rest others _ valid later =>
    refine .inr (.inr ⟨frame.encodedLength, frame.canonical, others,
      Frame.read_layout_append valid rest, rfl, ?_⟩)
    rw [← Frame.length_layout, List.drop_left]
    exact later

/-- What is dropped of a stream is noise. -/
theorem of_skips (carries : Carries (dropped ++ rest) frames noise)
    (skips : Codec.Skips ended resync rest dropped) :
    ∃ left, noise = dropped.length + left ∧ Carries rest frames left := by
  induction dropped generalizing noise with
  | nil => exact ⟨noise, by simp, carries⟩
  | cons byte dropped inductionHypothesis =>
    obtain ⟨bad, others⟩ := skips
    obtain ⟨empty, _, _⟩ | ⟨_, _, count, cause, split, rfl, _, later⟩ |
      ⟨consumed, frame, later, accepted, _, _⟩ := carries.read_cases
    · simp at empty
    · obtain ⟨rfl, rfl⟩ := List.cons_eq_cons.1 split
      obtain ⟨left, rfl, behind⟩ := inductionHypothesis later others
      exact ⟨left, by rw [List.length_cons]; omega, behind⟩
    · rw [← List.cons_append, accepted] at bad
      exact bad.elim

/-- What is taken off a stream is noise and then the next of its frames. -/
theorem of_takes (carries : Carries before frames noise)
    (takes : Codec.Takes resync before count given after) :
    ∃ later left, frames = given.toList ++ later ∧ noise = count + left ∧
      Carries after later left := by
  cases takes with
  | nothing skips =>
    obtain ⟨left, rfl, behind⟩ := carries.of_skips skips
    exact ⟨frames, left, rfl, rfl, behind⟩
  | @frame dropped rest consumed frame skips accepted =>
    obtain ⟨left, rfl, behind⟩ := carries.of_skips skips
    obtain ⟨rfl, _, _⟩ | ⟨_, _, _, _, _, _, refused, _⟩ |
      ⟨_, _, later, read, rfl, others⟩ := behind.read_cases
    · simp at accepted
    · rw [accepted] at refused
      cases refused
    · rw [accepted] at read
      cases read
      exact ⟨later, left, rfl, rfl, others⟩

/-- Nothing is left of a stream where only the rest of a frame is missing. -/
theorem eq_nil_of_incomplete (carries : Carries stream frames noise) {missing : Option Nat}
    (short : Frame.read stream = .error (.incomplete missing)) :
    stream = [] ∧ frames = [] ∧ noise = 0 := by
  obtain empty | ⟨_, _, _, _, _, _, refused, _⟩ | ⟨_, _, _, accepted, _, _⟩ := carries.read_cases
  · exact empty
  · rw [short] at refused
    cases refused
  · rw [short] at accepted
    cases accepted

end Carries

namespace Codec

variable {codec : Codec} {buffer coming : List UInt8} {frames : List Frame} {total : Nat}

/-- What holds of a codec in the middle of a stream: its buffer and the bytes to come carry these
frames. With what it dropped they amount to so many bytes of noise, which a strict codec does not
stand. -/
structure Hearing (total : Nat) (codec : Codec) (buffer coming : List UInt8)
    (frames : List Frame) : Prop where
  remembers : codec.Remembers buffer
  carries : ∃ noise, Carries (buffer ++ coming) frames noise ∧
    codec.discarded + noise = total ∧ (codec.resync = true ∨ noise = 0)

/-- One answer of a codec in the middle of a stream is the next frame or that none has come yet. -/
theorem Hearing.decode (hearing : Hearing total codec buffer coming frames) :
    ∃ given later, (codec.decode buffer).result = .ok given ∧ frames = given.toList ++ later ∧
      Hearing total (codec.decode buffer).codec (codec.decode buffer).buffer coming later ∧
      (given = none → ∃ missing,
        Frame.read (codec.decode buffer).buffer = .error (.incomplete missing)) := by
  obtain ⟨remembers, noise, carries, counted, stands⟩ := hearing
  obtain ⟨dropped, rest, found⟩ := decode_finds remembers
  have gives := found.gives
  have takes : Takes codec.resync (buffer ++ coming) dropped.length (codec.decode buffer).frame?
      ((codec.decode buffer).buffer ++ coming) := found.takes (by simp)
  obtain ⟨later, left, framesEq, rfl, behind⟩ := carries.of_takes takes
  have hearingThen : Hearing total (codec.decode buffer).codec (codec.decode buffer).buffer coming
      later := by
    refine ⟨found.remembers, left, behind, ?_, ?_⟩
    · rw [found.counted]
      omega
    · rw [found.mode]
      exact stands.imp_right fun none => (Nat.add_eq_zero_iff.1 none).2
  cases result : (codec.decode buffer).result with
  | ok given =>
    refine ⟨given, later, rfl, ?_, hearingThen, ?_⟩
    · rw [framesEq, Outcome.frame?, result]
    · rintro rfl
      rw [result] at gives
      obtain ⟨left, empty | ⟨_, missing, short⟩⟩ := gives.of_none
      · rw [left, empty]
        exact ⟨_, Frame.read_nil⟩
      · rw [left]
        exact ⟨missing, short⟩
  | error failure =>
    -- a strict codec refuses noise, and there is none
    rw [result] at gives
    obtain ⟨same, strict, ⟨cause, _, refused⟩ | ⟨_, ended, _⟩⟩ := gives.of_error
    · have silent : dropped.length + left = 0 := by
        refine stands.resolve_left ?_
        rw [strict]
        exact Bool.false_ne_true
      rw [same] at behind
      obtain ⟨empty, _, _⟩ | ⟨_, _, count, _, _, some, _, _⟩ | ⟨_, _, _, accepted, _, _⟩ :=
        behind.read_cases
      · rw [(List.append_eq_nil_iff.1 empty).1] at refused
        simp at refused
      · omega
      · rw [Frame.read_append_of_invalid refused coming] at accepted
        cases accepted
    · cases ended

/-- A frame that is given is the first. -/
theorem drain_of_frame {frame : Frame} (given : (codec.decode buffer).result = .ok (some frame)) :
    codec.drain buffer =
      { (codec.decode buffer).codec.drain (codec.decode buffer).buffer with
        frames :=
          frame :: ((codec.decode buffer).codec.drain (codec.decode buffer).buffer).frames } := by
  rw [drain]
  split
  · next found foundEq =>
    rw [given] at foundEq
    cases foundEq
    rfl
  · next frameless => exact absurd given (frameless frame)

/-- Asking ends with the first answer that gives no frame. -/
theorem drain_of_pause (pausing : ∀ frame, (codec.decode buffer).result ≠ .ok (some frame)) :
    codec.drain buffer = ⟨[], [(codec.decode buffer).result], (codec.decode buffer).codec,
      (codec.decode buffer).buffer⟩ := by
  rw [drain]
  split
  · next found foundEq => exact absurd foundEq (pausing found)
  · rfl

/-- Asking until nothing is given gives the next frames. -/
theorem Hearing.drain (hearing : Hearing total codec buffer coming frames) :
    ∃ later, frames = (codec.drain buffer).frames ++ later ∧
      (codec.drain buffer).pauses = [.ok none] ∧
      Hearing total (codec.drain buffer).codec (codec.drain buffer).buffer coming later ∧
      ∃ missing, Frame.read (codec.drain buffer).buffer = .error (.incomplete missing) := by
  induction codec, buffer using Codec.drain.induct generalizing frames with
  | case1 codec buffer frame given inductionHypothesis =>
    obtain ⟨_, later, result, rfl, hearingThen, _⟩ := hearing.decode
    rw [given, Except.ok.injEq] at result
    subst result
    obtain ⟨others, rfl, pauses, hearingLast, resting⟩ := inductionHypothesis hearingThen
    rw [drain_of_frame given]
    exact ⟨others, rfl, pauses, hearingLast, resting⟩
  | case2 codec buffer pausing =>
    obtain ⟨given, later, result, rfl, hearingThen, resting⟩ := hearing.decode
    obtain rfl : given = none := by
      cases given with
      | none => rfl
      | some frame => exact absurd result (pausing frame)
    rw [drain_of_pause pausing, result]
    exact ⟨later, rfl, rfl, hearingThen, resting rfl⟩

/-- Chunk by chunk, a codec that is fed a stream to its end gives all of its frames. -/
theorem Hearing.feed {chunks : List (List UInt8)}
    (hearing : Hearing total codec buffer chunks.flatten frames)
    (resting : ∃ missing, Frame.read buffer = .error (.incomplete missing)) :
    (codec.feed buffer chunks).Delivers frames ∧
      (codec.feed buffer chunks).codec.discarded = total := by
  induction chunks generalizing codec buffer frames with
  | nil =>
    obtain ⟨missing, short⟩ := resting
    obtain ⟨remembers, noise, carries, counted, stands⟩ := hearing
    rw [List.flatten_nil, List.append_nil] at carries
    obtain ⟨rfl, rfl, rfl⟩ := carries.eq_nil_of_incomplete short
    exact ⟨⟨rfl, by simp [Codec.feed], rfl⟩, counted⟩
  | cons chunk others inductionHypothesis =>
    have hearingChunk : Hearing total codec (buffer ++ chunk) others.flatten frames := by
      obtain ⟨remembers, noise, carries, counted⟩ := hearing
      rw [List.flatten_cons, ← List.append_assoc] at carries
      exact ⟨remembers.append chunk, noise, carries, counted⟩
    obtain ⟨later, rfl, pauses, hearingThen, restingThen⟩ := hearingChunk.drain
    obtain ⟨⟨framesEq, unfailing, emptied⟩, counted⟩ := inductionHypothesis hearingThen restingThen
    refine ⟨⟨?_, ?_, emptied⟩, counted⟩
    · rw [Codec.feed, framesEq]
    · simpa [Codec.feed, pauses] using unfailing

/-- What a codec hears of a transmission from its beginning, if it stands all the noise. -/
theorem hearing_transmission {sender receiver : Codec} {bursts : List Burst} {last : Noise}
    {chunks : List (List UInt8)} (cut : chunks.flatten = sender.transmit bursts ++ last.bytes)
    (free : receiver.required = 0)
    (stands : receiver.resync = true ∨ noiseLength bursts last = 0) :
    Hearing (receiver.discarded + noiseLength bursts last) receiver [] chunks.flatten
      (bursts.map (·.frame.canonical)) where
  remembers := remembers_of_required_eq_zero free []
  carries := by
    refine ⟨noiseLength bursts last, ?_, rfl, stands⟩
    rw [List.nil_append, cut]
    exact .of_transmit sender bursts last

/-- A transmission may be cut into any chunks. A resynchronising codec that waits for nothing and has
an empty buffer, fed chunk by chunk, gives the canonical forms of all its frames in order, and drops
exactly the noise in front of them, between them and behind them. Without noise a strict codec gives
the same. No end of the input is told to either, and nothing is left in the buffer. -/
theorem transmission_survives_noise {sender : Codec} {bursts : List Burst} {last : Noise}
    {chunks : List (List UInt8)} (cut : chunks.flatten = sender.transmit bursts ++ last.bytes) :
    (∀ receiver : Codec, receiver.resync = true → receiver.required = 0 →
      (receiver.feed [] chunks).Delivers (bursts.map (·.frame.canonical)) ∧
      (receiver.feed [] chunks).codec.discarded
        = receiver.discarded + noiseLength bursts last) ∧
    (noiseLength bursts last = 0 → ∀ receiver : Codec, receiver.resync = false →
      receiver.required = 0 →
      (receiver.feed [] chunks).Delivers (bursts.map (·.frame.canonical))) := by
  constructor
  · intro receiver resync free
    exact (hearing_transmission cut free (.inl resync)).feed ⟨_, Frame.read_nil⟩
  · intro silent receiver _ free
    exact ((hearing_transmission cut free (.inr silent)).feed ⟨_, Frame.read_nil⟩).1

/-- A request behind two bytes of noise and a long frame without data behind none, the request cut in
two, with one byte of noise at the end; and the long frame alone, cut in two, for a strict codec. -/
theorem transmission_survives_noise_at_cut_frames :
    let noise : Noise := ⟨[0x00, 0xFF], by simp [IsStart, singleByte, shortStart, longStart]⟩
    let request : Burst := ⟨noise, .short 0x7B 0x49, rfl⟩
    let select : Burst := ⟨.silence, .long 0x53 0xFE 0xBD [], rfl⟩
    let last : Noise := ⟨[0x16], by simp [IsStart, singleByte, shortStart, longStart]⟩
    let chunks : List (List UInt8) := [[0x00, 0xFF, 0x10, 0x7B],
      [0x49, 0xC4, 0x16, 0x68, 3, 3, 0x68, 0x53, 0xFE, 0xBD, 0x0E, 0x16, 0x16]]
    let halves : List (List UInt8) := [[0x68, 3, 3, 0x68], [0x53, 0xFE, 0xBD, 0x0E, 0x16]]
    (chunks.flatten = strict.transmit [request, select] ++ last.bytes ∧
      (resynchronizing.feed [] chunks).Delivers [.short 0x7B 0x49, .control 0x53 0xFE 0xBD] ∧
      (resynchronizing.feed [] chunks).codec.discarded = 3) ∧
    (halves.flatten = strict.transmit [select] ++ Noise.silence.bytes ∧
      noiseLength [select] .silence = 0 ∧
      (strict.feed [] halves).Delivers [.control 0x53 0xFE 0xBD]) := by
  intro noise request select last chunks halves
  have cut : chunks.flatten = strict.transmit [request, select] ++ last.bytes := rfl
  have cutThere : halves.flatten = strict.transmit [select] ++ Noise.silence.bytes := rfl
  exact ⟨⟨cut, (transmission_survives_noise cut).1 resynchronizing rfl rfl⟩,
    cutThere, rfl, (transmission_survives_noise cutThere).2 rfl strict rfl rfl⟩

end Codec

end MeterBus
