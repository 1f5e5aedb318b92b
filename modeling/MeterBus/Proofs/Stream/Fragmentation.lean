import MeterBus.Proofs.Stream.Drain

/-!
# Streams depend only on their bytes

What a line gives does not depend on where its input was cut into reads, how much of it there was
room for at once, and where its transport failed in between. Over a resynchronising codec it gives
the frames of a scan, and over a strict codec those of one shot.
-/

namespace MeterBus

/-- Whether the failures of a strict codec among the answers are those that the bytes behind the
frames call for: one and the same refusal, any number of times, or one truncation behind all else,
or none where nothing is left over. -/
def Frame.Shot.IsReportedIn (shot : Shot) (answers : List Poll) : Prop :=
  match shot.stop with
  | .invalid cause =>
    Poll.refusals answers ≠ [] ∧ ∀ refusal ∈ Poll.refusals answers, refusal = .malformed cause
  | .incomplete _ =>
    if shot.rest = [] then Poll.refusals answers = []
    else ∃ earlier ends, answers = earlier ++ .failure .truncated :: List.replicate ends .ended ∧
      Poll.refusals earlier = []

/-- A refusal is told as a failure. -/
theorem Poll.eq_of_refusal?_eq_some {answer : Poll} {refusal : LinkError}
    (refused : answer.refusal? = some refusal) : answer = .failure refusal := by
  unfold refusal? at refused
  split at refused
  · cases refused
  · next cause _ =>
    rw [Option.some.inj refused]
  · cases refused

/-- A refusal that is called for is among the answers. -/
theorem Poll.Conclude.refusals_ne_nil {refusal : LinkError} {answers : List Poll}
    (concluding : Conclude (some refusal) answers) : refusals answers ≠ [] := by
  obtain ⟨earlier, last, ends, rfl, _, refused, _⟩ := concluding
  have among : refusal ∈ refusals (earlier ++ last :: ends) :=
    List.mem_filterMap.2 ⟨last, by simp, refused⟩
  exact List.ne_nil_of_mem among

/-- A truncation that is called for, and the only kind of refusal, comes once and last. -/
theorem Poll.Conclude.truncated_last {answers : List Poll}
    (concluding : Conclude (some .truncated) answers)
    (only : ∀ refusal ∈ refusals answers, refusal = .truncated) :
    ∃ earlier ends, answers = earlier ++ .failure .truncated :: List.replicate ends .ended ∧
      refusals earlier = [] := by
  obtain ⟨earlier, last, ends, rfl, noneTruncated, refused, ending⟩ := concluding
  have silent : refusals earlier = [] := by
    rw [List.eq_nil_iff_forall_not_mem]
    intro refusal among
    have truncated := only refusal (by simp [among])
    rw [truncated] at among
    exact noneTruncated among
  refine ⟨earlier, ends.length, ?_, silent⟩
  rw [eq_of_refusal?_eq_some refused, ← List.eq_replicate_of_mem ending]

/-- Answers that conclude with what a shot calls for report just that. -/
theorem Frame.Shot.isReportedIn_of_conclude {shot : Shot} {answers : List Poll}
    (refusals : ∀ refusal ∈ Poll.refusals answers, shot.refusal? = some refusal)
    (concluding : Poll.Conclude shot.refusal? answers) : shot.IsReportedIn answers := by
  obtain ⟨frames, rest, stop⟩ := shot
  cases stop with
  | invalid cause =>
    refine ⟨concluding.refusals_ne_nil, ?_⟩
    intro refusal among
    have called := refusals refusal among
    exact (Option.some.inj called).symm
  | incomplete missing =>
    by_cases empty : rest = []
    · have silent : Poll.refusals answers = [] := by
        rw [List.eq_nil_iff_forall_not_mem]
        intro refusal among
        have called := refusals refusal among
        simp [refusal?, empty] at called
      simpa [IsReportedIn, empty] using silent
    · have truncated : refusal? ⟨frames, rest, .incomplete missing⟩ = some .truncated :=
        if_neg empty
      rw [truncated] at refusals concluding
      have last := concluding.truncated_last fun refusal among =>
        (Option.some.inj (refusals refusal among)).symm
      simpa [IsReportedIn, empty] using last

namespace Line

variable {now : Nat} {codec : Codec} {fragments : List Fragment} {answers : List Poll}
  {final : Line}

/-- Nothing is ahead of a line whose input is used up but what it keeps in its buffer. -/
theorem IsDrained.ahead_eq (drained : final.IsDrained) :
    final.intake.ahead = final.reader.buffer := by
  have nothing : final.intake.arrivals = [] := drained.arrived
  rw [Intake.ahead, nothing, List.flatMap_nil, List.append_nil]
  rfl

/-- The codec has said its last word where the input is used up. -/
theorem IsDrained.reported (drained : final.IsDrained) : final.intake.Reported :=
  ⟨drained.ended, .inl drained.unreadable⟩

/-- Every line that receives fragments comes to the end of its input. -/
theorem receiving_drains (now : Nat) (codec : Codec) (free : codec.required = 0)
    (fragments : List Fragment) :
    ∃ answers final, (receiving now codec fragments).Drains now answers final ∧
      Passing now (receiving now codec fragments).intake answers final.intake := by
  have closed : (receiving now codec fragments).closed = true := by
    rw [receiving_eq]
  exact exists_drains (sound_receiving now codec free fragments) closed

/-- What is between the first poll of a resynchronising codec and the end is a scan. -/
theorem frames_of_resynchronizing
    (drains : (receiving now .resynchronizing fragments).Drains now answers final)
    (passing : Passing now (receiving now .resynchronizing fragments).intake answers final.intake) :
    final.reader.buffer = [] ∧ Poll.frames answers = Frame.scan (Fragment.contents fragments) := by
  have mode := passing.mode
  rw [codec_receiving] at mode
  have emptied : final.reader.buffer = [] := passing.sound.emptied mode drains.drained.reported
  have scanned := passing.scan
  rw [ahead_receiving, drains.drained.ahead_eq, emptied, Frame.scan_nil, List.append_nil] at scanned
  exact ⟨emptied, scanned.symm⟩

/-- What is between the first poll of a strict codec and the end is one shot. -/
theorem frames_of_strict (drains : (receiving now .strict fragments).Drains now answers final)
    (passing : Passing now (receiving now .strict fragments).intake answers final.intake) :
    Poll.frames answers = (Frame.oneShot (Fragment.contents fragments)).frames ∧
      final.reader.buffer = (Frame.oneShot (Fragment.contents fragments)).rest := by
  have strict : (receiving now .strict fragments).intake.reader.codec.resync = false := by
    rw [codec_receiving]
    rfl
  obtain ⟨stop, failed⟩ := passing.sound.resting (.inl drains.drained.unreadable)
  change Frame.read final.reader.buffer = .error stop at failed
  have shot := passing.oneShot strict
  rw [ahead_receiving, drains.drained.ahead_eq, Frame.oneShot_of_error failed] at shot
  simp only [List.append_nil] at shot
  rw [shot]
  exact ⟨rfl, rfl⟩

/-- All that was to fail fails. -/
theorem outages_of_passing (drains : (receiving now codec fragments).Drains now answers final)
    (passing : Passing now (receiving now codec fragments).intake answers final.intake) :
    Poll.outages answers = Fragment.outages fragments := by
  have outages := passing.outages
  have nothing : final.intake.outages = [] := by
    rw [Intake.outages, intake, drains.drained.arrived]
    rfl
  rw [outages_receiving, nothing, List.append_nil] at outages
  exact outages.symm

/-- Over a resynchronising codec, a line gives the frames of a scan, however its input was cut and
whatever failed in between. No failure is the codec's, nothing is left over, and all bytes but those
of the frames were dropped. -/
theorem resynchronizing_gives_scan (now : Nat) (fragments : List Fragment) :
    ∃ answers final,
      (receiving now .resynchronizing fragments).Drains now answers final ∧
      Poll.frames answers = Frame.scan (Fragment.contents fragments) ∧
      Poll.refusals answers = [] ∧
      Poll.outages answers = Fragment.outages fragments ∧
      final.reader.buffer = [] ∧
      final.reader.codec.discarded + ((Poll.frames answers).map Frame.encodedLength).sum
        = (Fragment.contents fragments).length := by
  obtain ⟨answers, final, drains, passing⟩ :=
    receiving_drains now .resynchronizing rfl fragments
  obtain ⟨emptied, frames⟩ := frames_of_resynchronizing drains passing
  have accepting : Poll.refusals answers = [] := by
    rw [List.eq_nil_iff_forall_not_mem]
    intro refusal among
    have strict := (passing.refusals refusal among).1
    rw [codec_receiving] at strict
    cases strict
  have counted := passing.counted
  rw [ahead_receiving, drains.drained.ahead_eq, emptied, codec_receiving] at counted
  refine ⟨answers, final, drains, frames, accepting, outages_of_passing drains passing, emptied, ?_⟩
  simpa [intake, Codec.resynchronizing] using counted.symm

/-- Over a strict codec, a line gives the frames of one shot and keeps the bytes behind them,
however its input was cut and whatever failed in between. The failures of the codec are those that
these bytes call for. A resynchronising codec gives the same frames first, however the same bytes
are cut for it. -/
theorem strict_gives_oneShot (now : Nat) (fragments others : List Fragment)
    (same : Fragment.contents others = Fragment.contents fragments) :
    ∃ answers final,
      (receiving now .strict fragments).Drains now answers final ∧
      Poll.frames answers = (Frame.oneShot (Fragment.contents fragments)).frames ∧
      final.reader.buffer = (Frame.oneShot (Fragment.contents fragments)).rest ∧
      (Frame.oneShot (Fragment.contents fragments)).IsReportedIn answers ∧
      Poll.outages answers = Fragment.outages fragments ∧
      ∃ answersThere finalThere,
        (receiving now .resynchronizing others).Drains now answersThere finalThere ∧
        Poll.frames answers <+: Poll.frames answersThere := by
  obtain ⟨answers, final, drains, passing⟩ := receiving_drains now .strict rfl fragments
  obtain ⟨answersThere, finalThere, drainsThere, passingThere⟩ :=
    receiving_drains now .resynchronizing rfl others
  obtain ⟨frames, kept⟩ := frames_of_strict drains passing
  have framesThere := (frames_of_resynchronizing drainsThere passingThere).2
  have reported : (Frame.oneShot (Fragment.contents fragments)).IsReportedIn answers := by
    have strict : (receiving now .strict fragments).intake.reader.codec.resync = false := by
      rw [codec_receiving]
      rfl
    have unreported : ¬ (receiving now .strict fragments).intake.Reported := by
      rw [receiving_eq]
      exact fun reported => absurd reported.1 Bool.false_ne_true
    rw [← ahead_receiving now .strict fragments]
    exact Frame.Shot.isReportedIn_of_conclude
      (fun refusal among => (passing.refusals refusal among).2)
      (passing.concluding strict unreported drains.drained.reported)
  refine ⟨answers, final, drains, frames, kept, reported, outages_of_passing drains passing,
    answersThere, finalThere, drainsThere, ?_⟩
  rw [frames, framesThere, same]
  exact Frame.oneShot_prefix_scan _

/-- A frame, and then a header that is cut by a failure and never completed. -/
theorem strict_gives_oneShot_at_cut_header :
    Fragment.contents [.bytes 0xE5 [0x10, 0x5B]] = Fragment.contents
        [.bytes 0xE5 [0x10], .failure "TimedOut" "injected", .bytes 0x5B []] ∧
      ∃ answers final,
        (receiving 0 .strict
          [.bytes 0xE5 [0x10], .failure "TimedOut" "injected", .bytes 0x5B []]).Drains
            0 answers final ∧
        Poll.frames answers = [.single] ∧
        final.reader.buffer = [0x10, 0x5B] ∧
        ∃ earlier ends, answers = earlier ++ .failure .truncated :: List.replicate ends .ended ∧
          Poll.refusals earlier = [] := by
  have same : Fragment.contents [.bytes 0xE5 [0x10, 0x5B]] = Fragment.contents
      [.bytes 0xE5 [0x10], .failure "TimedOut" "injected", .bytes 0x5B []] := rfl
  have shot : Frame.oneShot (Fragment.contents
      [.bytes 0xE5 [0x10], .failure "TimedOut" "injected", .bytes 0x5B []])
        = ⟨[.single], [0x10, 0x5B], .incomplete (some 1)⟩ := by
    decide +kernel
  obtain ⟨answers, final, drains, frames, kept, reported, _⟩ := strict_gives_oneShot 0 _ _ same
  rw [shot] at frames kept reported
  simp only [Frame.Shot.IsReportedIn, List.cons_ne_nil, if_false] at reported
  exact ⟨same, answers, final, drains, frames, kept, reported⟩

end Line

end MeterBus
