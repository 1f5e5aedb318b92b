import MeterBus.Proofs.Stream.Intake

/-!
# What is given without a read

A poll begins with what needs no read: the pause behind a failure, or a look into the buffer. Each
is a passing, and where nothing is given the reader is idle: it holds no frame and has not met the
end of its input.
-/

namespace MeterBus

variable {now : Nat} {reader : FrameReader} {arrivals : List Arrival}

namespace FrameReader

/-- Whether a reader gives nothing before the next read, and may still give something behind it. -/
def Idle (reader : FrameReader) : Prop :=
  reader.ended = false ∧ reader.readable = false ∧ reader.errored = false

/-- The codec finds what stands in the buffer. -/
theorem attempt_finds (reader : FrameReader)
    (remembers : reader.codec.Remembers reader.buffer) :
    ∃ dropped rest,
      Codec.Finding reader.ended reader.codec reader.buffer dropped rest reader.attempt := by
  unfold attempt
  cases ended : reader.ended with
  | false => exact Codec.decode_finds remembers
  | true => exact Codec.decodeEnd_finds remembers

/-- The reader behind a look into its buffer. -/
def looked (reader : FrameReader) : FrameReader :=
  { reader with
    codec := reader.attempt.codec
    buffer := reader.attempt.buffer
    storage := reader.storage.release (reader.attempt.taken reader.codec) }

end FrameReader

/-- Nothing arrives behind the end of the input. -/
theorem Intake.incoming_eq_nil (sound : Intake.Sound now ⟨reader, arrivals⟩)
    (ended : reader.ended = true) : arrivals.flatMap (·.chunk.content) = [] := by
  obtain rfl : arrivals = [] := sound.last ended
  rfl

/-- A look into the buffer takes off the stream what the codec finds there. -/
theorem Passing.of_look (sound : Intake.Sound now ⟨reader, arrivals⟩)
    (unerrored : reader.errored = false) (readable : reader.readable = true)
    {after : FrameReader} {answers : List Poll}
    (codec : after.codec = reader.attempt.codec) (buffer : after.buffer = reader.attempt.buffer)
    (free : after.storage.free = reader.storage.free) (ended : after.ended = reader.ended)
    (resting : after.readable = false ∨ after.errored = true →
      ∃ reason, Frame.read reader.attempt.buffer = .error reason)
    (emptied : reader.codec.resync = true → Intake.Reported ⟨after, arrivals⟩ →
      reader.attempt.buffer = [])
    (frames : Poll.frames answers = reader.attempt.frame?.toList)
    (outages : Poll.outages answers = [])
    (refusals : ∀ cause ∈ Poll.refusals answers, reader.codec.resync = false ∧
      (Frame.oneShot (Intake.ahead ⟨reader, arrivals⟩)).refusal? = some cause)
    (untruncated : ¬ Intake.Reported ⟨after, arrivals⟩ → .truncated ∉ Poll.refusals answers)
    (concluding : reader.codec.resync = false → Intake.Reported ⟨after, arrivals⟩ →
      Poll.Conclude (Frame.oneShot (Intake.ahead ⟨reader, arrivals⟩)).refusal? answers)
    (potential : Intake.potential ⟨after, arrivals⟩ + answers.length
      ≤ Intake.potential ⟨reader, arrivals⟩) :
    Passing now ⟨reader, arrivals⟩ answers ⟨after, arrivals⟩ := by
  obtain ⟨dropped, rest, found⟩ := reader.attempt_finds sound.remembers
  have takes := found.takes fun ended _ => Intake.incoming_eq_nil sound ended
  have aheadAfter : Intake.ahead ⟨after, arrivals⟩
      = reader.attempt.buffer ++ arrivals.flatMap (·.chunk.content) := by
    rw [Intake.ahead, buffer]
  rw [← aheadAfter] at takes
  have counted : reader.codec.discarded + (Intake.ahead ⟨reader, arrivals⟩).length
      = after.codec.discarded + ((Poll.frames answers).map Frame.encodedLength).sum
        + (Intake.ahead ⟨after, arrivals⟩).length := by
    have length := takes.length_eq
    have dropping := found.counted
    rw [frames, codec, Intake.ahead]
    dsimp only
    omega
  exact {
    sound := {
      remembers := by rw [codec, buffer]; exact found.remembers
      resting := by rw [buffer]; exact resting
      emptied := by rw [codec, buffer, found.mode]; exact emptied
      roomy := by rw [ended, free]; exact sound.roomy
      arriving := sound.arriving
      last := by rw [ended]; exact sound.last }
    mode := by rw [codec]; exact found.mode
    scan := by rw [frames]; exact takes.scan_eq
    oneShot := by
      intro strict
      change reader.codec.resync = false at strict
      rw [strict] at takes
      rw [frames]
      exact takes.oneShot_eq
    counted := counted
    outages := by rw [outages]; rfl
    refusals := refusals
    reported := by
      intro reported
      have settled := reported.2
      simp [unerrored, readable] at settled
    unreported := untruncated
    concluding := fun strict _ reported => concluding strict reported
    potential := potential }

/-- A frame that the codec gives is taken off the stream. -/
theorem look_passing_of_frame (sound : Intake.Sound now ⟨reader, arrivals⟩)
    (unerrored : reader.errored = false) (readable : reader.readable = true) {frame : Frame}
    (given : reader.attempt.result = .ok (some frame)) :
    Passing now ⟨reader, arrivals⟩ [.frame frame] ⟨reader.looked, arrivals⟩ := by
  have unreported : ¬ Intake.Reported ⟨reader.looked, arrivals⟩ := by
    simp [Intake.Reported, FrameReader.looked, unerrored, readable]
  refine .of_look sound unerrored readable rfl rfl rfl rfl ?resting ?emptied ?frames rfl ?refusals
    ?untruncated ?concluding ?potential
  case resting => simp [FrameReader.looked, unerrored, readable]
  case emptied => exact fun _ reported => absurd reported unreported
  case frames =>
    rw [Codec.Outcome.frame?, given]
    rfl
  case refusals => simp [Poll.refusals, Poll.refusal?]
  case untruncated => simp [Poll.refusals, Poll.refusal?]
  case concluding => exact fun _ reported => absurd reported unreported
  case potential =>
    have shorter := FrameReader.length_attempt_lt given
    simp only [Intake.potential, FrameReader.looked, unerrored, readable, List.length_singleton]
    omega

/-- What a strict codec refuses stays in the buffer, and one shot stops there too. -/
theorem look_passing_of_refusal (sound : Intake.Sound now ⟨reader, arrivals⟩)
    (unerrored : reader.errored = false) (readable : reader.readable = true) {failure : LinkError}
    (refused : reader.attempt.result = .error failure) :
    Passing now ⟨reader, arrivals⟩ [.failure failure]
      ⟨{ reader.looked with errored := true }, arrivals⟩ := by
  obtain ⟨dropped, rest, found⟩ := reader.attempt_finds sound.remembers
  have gives := found.gives
  rw [refused] at gives
  obtain ⟨_, strict, verdict⟩ := gives.of_error
  obtain ⟨_, split, _⟩ := found.of_strict strict
  have refusals : Poll.refusals [.failure failure] = [failure] := by
    obtain ⟨cause, rfl, _⟩ | ⟨rfl, _⟩ := verdict <;> rfl
  have stops : (Frame.oneShot (Intake.ahead ⟨reader, arrivals⟩)).refusal? = some failure := by
    rw [Intake.ahead, split]
    obtain ⟨cause, rfl, invalid⟩ | ⟨rfl, ended, some, missing, short⟩ := verdict
    · rw [Frame.oneShot_of_error (Frame.read_append_of_invalid invalid _)]
      rfl
    · rw [Intake.incoming_eq_nil sound ended, List.append_nil, Frame.oneShot_of_error short]
      exact if_neg some
  refine .of_look sound unerrored readable rfl rfl rfl rfl ?resting ?emptied ?frames ?outages
    ?refusals ?untruncated ?concluding ?potential
  case resting => exact fun _ => found.gives.failed (by simp [refused])
  case emptied => exact fun resync _ => absurd (strict.symm.trans resync) Bool.false_ne_true
  case frames =>
    rw [Codec.Outcome.frame?, refused]
    rfl
  case outages => obtain ⟨cause, rfl, _⟩ | ⟨rfl, _⟩ := verdict <;> rfl
  case refusals =>
    rw [refusals]
    intro cause among
    rw [List.mem_singleton.1 among]
    exact ⟨strict, stops⟩
  case untruncated =>
    -- a truncation is reported at the end of the input only
    intro unreported among
    rw [refusals, List.mem_singleton] at among
    obtain ⟨cause, rfl, _⟩ | ⟨_, ended, _⟩ := verdict
    · cases among
    · exact unreported ⟨ended, .inr rfl⟩
  case concluding =>
    intro _ _
    refine ⟨[], .failure failure, [], rfl, by simp, ?_, by simp⟩
    rw [stops]
    obtain ⟨cause, rfl, _⟩ | ⟨rfl, _⟩ := verdict <;> rfl
  case potential =>
    have shorter := reader.length_attempt_le
    simp only [Intake.potential, FrameReader.looked, unerrored, readable, List.length_singleton,
      Bool.false_eq_true, if_true, if_false]
    omega

/-- A look that gives nothing leaves nothing at the end of the input, which it reports, and what may
be the start of a frame before. -/
theorem look_passing_of_nothing (sound : Intake.Sound now ⟨reader, arrivals⟩)
    (unerrored : reader.errored = false) (readable : reader.readable = true)
    (nothing : reader.attempt.result = .ok none) :
    Passing now ⟨reader, arrivals⟩ (if reader.ended then [.ended] else [])
      ⟨{ reader.looked with readable := false }, arrivals⟩ := by
  obtain ⟨dropped, rest, found⟩ := reader.attempt_finds sound.remembers
  have gives := found.gives
  rw [nothing] at gives
  obtain ⟨left, verdict⟩ := gives.of_none
  have emptied : reader.ended = true → rest = [] := by
    intro ended
    obtain empty | ⟨flowing, _⟩ := verdict
    · exact empty
    · rw [flowing] at ended
      exact absurd ended Bool.false_ne_true
  have silent : Poll.frames (if reader.ended then [.ended] else []) = [] ∧
      Poll.outages (if reader.ended then [.ended] else []) = [] ∧
      Poll.refusals (if reader.ended then [.ended] else []) = [] := by
    split <;> exact ⟨rfl, rfl, rfl⟩
  refine .of_look sound unerrored readable rfl rfl rfl rfl ?resting ?emptied ?frames silent.2.1
    ?refusals ?untruncated ?concluding ?potential
  case resting => exact fun _ => found.gives.failed (by simp [nothing])
  case emptied => exact fun _ reported => left.trans (emptied reported.1)
  case frames =>
    rw [silent.1, Codec.Outcome.frame?, nothing]
    rfl
  case refusals => simp [silent.2.2]
  case untruncated => simp [silent.2.2]
  case concluding =>
    intro strict reported
    have ended : reader.ended = true := reported.1
    obtain ⟨_, whole, _⟩ := found.of_strict strict
    have empty : reader.buffer = [] := whole.trans (emptied ended)
    rw [Intake.ahead, empty, Intake.incoming_eq_nil sound ended, List.append_nil,
      Frame.oneShot_of_error Frame.read_nil, if_pos ended]
    exact ⟨[], .ended, [], rfl, by simp, rfl, by simp⟩
  case potential =>
    have shorter := reader.length_attempt_le
    simp only [Intake.potential, FrameReader.looked, unerrored, readable, Bool.false_eq_true,
      if_true, if_false]
    cases reader.ended with
    | true =>
      simp only [if_true, List.length_singleton]
      omega
    | false =>
      simp only [Bool.false_eq_true, if_false, List.length_nil]
      omega

/-- After a failure the stream pauses once. -/
theorem settle_passing_of_errored (sound : Intake.Sound now ⟨reader, arrivals⟩)
    (errored : reader.errored = true) :
    Passing now ⟨reader, arrivals⟩ [.ended]
      ⟨{ reader with errored := false, readable := false }, arrivals⟩ := by
  have reported : Intake.Reported ⟨reader, arrivals⟩ ↔ reader.ended = true := by
    simp [Intake.Reported, errored]
  have soundAfter : Intake.Sound now
      ⟨{ reader with errored := false, readable := false }, arrivals⟩ := {
    remembers := sound.remembers
    resting := fun _ => sound.resting (.inr errored)
    emptied := fun resync reported => sound.emptied resync ⟨reported.1, .inr errored⟩
    roomy := sound.roomy
    arriving := sound.arriving
    last := sound.last }
  refine .of_still soundAfter rfl rfl rfl rfl rfl ?unreported ?reported ?potential
  case unreported =>
    intro after
    exact reported.2 after.1
  case reported =>
    intro before
    exact ⟨⟨before.1, .inl rfl⟩, by simp⟩
  case potential => simp [Intake.potential, errored]

/-- A look into the buffer gives what a codec finds there. -/
theorem settle_passing_of_readable (sound : Intake.Sound now ⟨reader, arrivals⟩)
    (unerrored : reader.errored = false) (readable : reader.readable = true) :
    Passing now ⟨reader, arrivals⟩ reader.settle.1.toList ⟨reader.settle.2.1, arrivals⟩ ∧
      (reader.settle.1 = none → reader.settle.2.1.Idle) := by
  cases result : reader.attempt.result with
  | error failure =>
    have passing := look_passing_of_refusal sound unerrored readable result
    simpa [FrameReader.settle, FrameReader.looked, unerrored, readable, result] using passing
  | ok given =>
    cases given with
    | some frame =>
      have passing := look_passing_of_frame sound unerrored readable result
      simpa [FrameReader.settle, FrameReader.looked, unerrored, readable, result] using passing
    | none =>
      have passing := look_passing_of_nothing sound unerrored readable result
      cases ended : reader.ended with
      | true =>
        simpa [FrameReader.settle, FrameReader.looked, unerrored, readable, result, ended]
          using passing
      | false =>
        simpa [FrameReader.settle, FrameReader.looked, FrameReader.Idle, unerrored, readable,
          result, ended] using passing

/-- What is given without a read, and what is ready for one. -/
theorem settle_passing (sound : Intake.Sound now ⟨reader, arrivals⟩)
    (going : ¬ Intake.Exhausted ⟨reader, arrivals⟩) :
    Passing now ⟨reader, arrivals⟩ reader.settle.1.toList ⟨reader.settle.2.1, arrivals⟩ ∧
      (reader.settle.1 = none → reader.settle.2.1.Idle) := by
  cases errored : reader.errored with
  | true =>
    have paused := settle_passing_of_errored sound errored
    simpa [FrameReader.settle, errored] using paused
  | false =>
    cases readable : reader.readable with
    | true => exact settle_passing_of_readable sound errored readable
    | false =>
      have flowing : reader.ended = false := by
        cases ended : reader.ended with
        | false => rfl
        | true => exact absurd ⟨ended, readable, errored⟩ going
      have still := Passing.refl sound
      simpa [FrameReader.settle, FrameReader.Idle, errored, readable, flowing] using still

end MeterBus
