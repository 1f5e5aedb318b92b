import MeterBus.Proofs.Stream.Fragmentation

/-!
# Taking a capture to its end

A capture is a line that is closed behind bytes that have all arrived. Nothing interrupts a
resynchronising codec there: each poll gives a frame until one gives the end of the stream, so that
taking what is ready takes all that a scan finds. `Undisturbed` is what a poll of such a line can give.
-/

namespace MeterBus

/-- What a poll gives that no failure disturbs: a frame, with more to look at, or the end of the
stream, with nothing more to come. -/
inductive Undisturbed : Poll → FrameReader → Prop where
  | going {frame : Frame} {reader : FrameReader} (readable : reader.readable = true)
      (unerrored : reader.errored = false) : Undisturbed (.frame frame) reader
  | done {reader : FrameReader} (ended : reader.ended = true)
      (unreadable : reader.readable = false) : Undisturbed .ended reader

variable {now : Nat} {reader : FrameReader} {arrivals : List Arrival}

/-- A resynchronising codec refuses nothing. -/
theorem FrameReader.exists_attempt_of_resync (remembers : reader.codec.Remembers reader.buffer)
    (resync : reader.codec.resync = true) : ∃ given, reader.attempt.result = .ok given := by
  obtain ⟨dropped, rest, found⟩ := reader.attempt_finds remembers
  have gives := found.gives
  cases result : reader.attempt.result with
  | ok given => exact ⟨given, rfl⟩
  | error failure =>
    rw [result] at gives
    have strict := gives.of_error.2.1
    rw [resync] at strict
    cases strict

/-- What is given without a read is undisturbed, and so is the reader where nothing is given. -/
theorem FrameReader.settle_undisturbed (remembers : reader.codec.Remembers reader.buffer)
    (resync : reader.codec.resync = true) (unerrored : reader.errored = false) :
    (∀ poll, reader.settle.1 = some poll → Undisturbed poll reader.settle.2.1) ∧
      reader.settle.2.1.errored = false := by
  obtain ⟨given, result⟩ := exists_attempt_of_resync remembers resync
  cases readable : reader.readable with
  | false => simp [settle, unerrored, readable]
  | true =>
    cases given with
    | some frame => simpa [settle, unerrored, readable, result] using .going rfl rfl
    | none =>
      cases ended : reader.ended with
      | false => simp [settle, unerrored, readable, result, ended]
      | true => simpa [settle, unerrored, readable, result, ended] using .done rfl rfl

/-- A read without a failure ends no poll. -/
theorem FrameReader.absorb_of_unfailing {piece : Chunk} (input : piece.IsInput)
    (unfailing : piece.outage? = none) (reader : FrameReader) :
    (reader.absorb piece).1 = none ∧ (reader.absorb piece).2.errored = reader.errored := by
  cases input with
  | failure condition message => cases unfailing
  | bytes content => cases content <;> exact ⟨rfl, rfl⟩

/-- What a read takes of arrivals without failures is none, and what it leaves has none either. -/
theorem Arrival.Read.unfailing {piece : Chunk} {left : List Arrival}
    (read : Arrival.Read now arrivals piece left)
    (unfailing : arrivals.filterMap (·.chunk.outage?) = []) :
    piece.outage? = none ∧ left.filterMap (·.chunk.outage?) = [] := by
  have outages := read.outages
  rw [unfailing] at outages
  obtain ⟨here, later⟩ := List.append_eq_nil_iff.1 outages.symm
  exact ⟨Option.toList_eq_nil_iff.1 here, later⟩

/-- A poll of a closed line without failures ahead gives a frame or the end of the stream. -/
theorem Line.pollReader_undisturbed (sound : Intake.Sound now ⟨reader, arrivals⟩)
    (going : ¬ Intake.Exhausted ⟨reader, arrivals⟩) (resync : reader.codec.resync = true)
    (unerrored : reader.errored = false) (unfailing : Intake.outages ⟨reader, arrivals⟩ = []) :
    Undisturbed (pollReader now true reader arrivals).poll
      (pollReader now true reader arrivals).reader := by
  fun_induction pollReader now true reader arrivals with
  | case1 reader arrivals poll settled events settledEq =>
    have undisturbed := (FrameReader.settle_undisturbed sound.remembers resync unerrored).1
    rw [settledEq] at undisturbed
    exact undisturbed poll rfl
  | case2 reader settled events settledEq closed poll after absorbedEq =>
    have idle := (settle_passing sound going).2
    rw [settledEq] at idle
    have flowing : settled.ended = false := (idle rfl).1
    simp [FrameReader.absorb, FrameReader.makeRoom, flowing] at absorbedEq
  | case3 reader settled events settledEq closed after absorbedEq last =>
    obtain ⟨settling, idle⟩ := settle_passing sound going
    rw [settledEq] at settling idle
    have flowing : settled.ended = false := (idle rfl).1
    have finished : { settled.makeRoom with ended := true, readable := true } = after := by
      simpa [FrameReader.absorb, FrameReader.makeRoom, flowing] using absorbedEq
    obtain ⟨poll, given, looking⟩ := last_look_passing settling.sound (idle rfl) finished
    have remembers : after.codec.Remembers after.buffer := by
      rw [← finished]
      exact settling.sound.remembers
    have resyncAfter : after.codec.resync = true := by
      rw [← finished]
      exact settling.mode.trans resync
    have unerroredAfter : after.errored = false := by
      rw [← finished]
      exact (idle rfl).2.2
    have undisturbed := (FrameReader.settle_undisturbed remembers resyncAfter unerroredAfter).1
    simpa [last, given] using undisturbed poll given
  | case4 reader settled events settledEq opened => exact absurd rfl opened
  | case5 reader settled events settledEq arrival later due space poll after absorbedEq =>
    have read : Arrival.Read now (arrival :: later) (arrival.cut space).1
        ((arrival.cut space).2 ++ later) :=
      arrival.read_cut (Storage.free_makeRoom_pos ..) sound.arriving
    have absorbed := (FrameReader.absorb_of_unfailing read.input (read.unfailing unfailing).1
      settled.makeRoom).1
    rw [absorbedEq] at absorbed
    cases absorbed
  | case6 reader settled events settledEq arrival later due space after absorbedEq polled
      inductionHypothesis =>
    obtain ⟨settling, idle⟩ := settle_passing sound going
    rw [settledEq] at settling idle
    have read : Arrival.Read now (arrival :: later) (arrival.cut space).1
        ((arrival.cut space).2 ++ later) :=
      arrival.read_cut (Storage.free_makeRoom_pos ..) sound.arriving
    obtain ⟨absorbing, flowing⟩ := absorb_passing settling.sound (idle rfl) read
    have unerroredAfter := (FrameReader.absorb_of_unfailing read.input
      (read.unfailing unfailing).1 settled.makeRoom).2
    rw [absorbedEq] at absorbing flowing unerroredAfter
    have goingAfter : ¬ Intake.Exhausted ⟨after, (arrival.cut space).2 ++ later⟩ := by
      intro exhausted
      exact absurd (flowing.symm.trans exhausted.1) Bool.false_ne_true
    exact inductionHypothesis absorbing.sound goingAfter
      (absorbing.mode.trans (settling.mode.trans resync)) (unerroredAfter.trans (idle rfl).2.2)
      (read.unfailing unfailing).2
  | case7 reader settled events settledEq arrival later early =>
    exact absurd (sound.arriving arrival (List.mem_cons_self ..)).1 early

namespace Line

variable {line : Line}

/-- A poll of a closed line without failures ahead gives a frame or the end of the stream. -/
theorem poll_undisturbed (sound : line.intake.Sound now) (closed : line.closed = true)
    (going : ¬ line.intake.Exhausted) (resync : line.reader.codec.resync = true)
    (unerrored : line.reader.errored = false) (unfailing : line.intake.outages = []) :
    Undisturbed (line.poll now).1 (line.poll now).2.1.reader := by
  simp only [poll, closed]
  exact pollReader_undisturbed sound going resync unerrored unfailing

/-- Taking what is ready of a closed line without failures ahead takes frames up to the end of the
stream. -/
theorem readyFrames_passing (sound : line.intake.Sound now) (closed : line.closed = true)
    (going : ¬ line.intake.Exhausted) (resync : line.reader.codec.resync = true)
    (unerrored : line.reader.errored = false) (unfailing : line.intake.outages = []) :
    (line.readyFrames now).last = .ended ∧ (line.readyFrames now).line.intake.Reported ∧
      Passing now line.intake ((line.readyFrames now).frames.map (.frame ·.1) ++ [.ended])
        (line.readyFrames now).line.intake := by
  fun_induction readyFrames now line with
  | case1 line polled frame given others inductionHypothesis =>
    have undisturbed := poll_undisturbed sound closed going resync unerrored unfailing
    have passing := poll_passing sound closed going
    have outages := passing.outages
    change Undisturbed polled.1 polled.2.1.reader at undisturbed
    change Passing now line.intake [polled.1] polled.2.1.intake at passing
    rw [given] at undisturbed passing
    rw [unfailing] at outages
    cases undisturbed with
    | going readable unerroredThen =>
      have goingThen : ¬ polled.2.1.intake.Exhausted := by
        intro exhausted
        exact absurd (exhausted.2.1.symm.trans readable) Bool.false_ne_true
      obtain ⟨ended, reported, others⟩ := inductionHypothesis passing.sound closed goingThen
        (passing.mode.trans resync) unerroredThen (List.append_eq_nil_iff.1 outages.symm).2
      exact ⟨ended, reported, passing.trans others⟩
  | case2 line polled frameless =>
    have undisturbed := poll_undisturbed sound closed going resync unerrored unfailing
    have passing := poll_passing sound closed going
    change Undisturbed polled.1 polled.2.1.reader at undisturbed
    change Passing now line.intake [polled.1] polled.2.1.intake at passing
    generalize answerEq : polled.1 = answer at undisturbed passing frameless
    cases undisturbed with
    | @going frame _ readable unerroredThen => exact (frameless frame rfl).elim
    | done ended unreadable => exact ⟨rfl, ⟨ended, .inl unreadable⟩, passing⟩

/-- Nothing is ahead of a line behind the last word of a resynchronising codec. -/
theorem ahead_of_reported (sound : line.intake.Sound now) (resync : line.reader.codec.resync = true)
    (reported : line.intake.Reported) : line.intake.ahead = [] := by
  have emptied : line.intake.reader.buffer = [] := sound.emptied resync reported
  rw [Intake.ahead, emptied, sound.last reported.1]
  rfl

/-- Taking what is ready of a capture takes the frames of a scan, and all other bytes are dropped. -/
theorem readyFrames_receiving (now : Nat) {fragments : List Fragment}
    (unfailing : Fragment.outages fragments = []) :
    let ready := (receiving now .resynchronizing fragments).readyFrames now
    ready.last = .ended ∧ ready.frames.map (·.1) = Frame.scan (Fragment.contents fragments) ∧
      ready.line.reader.codec.discarded
        + ((Frame.scan (Fragment.contents fragments)).map Frame.encodedLength).sum
          = (Fragment.contents fragments).length := by
  intro ready
  have sound := sound_receiving now .resynchronizing rfl fragments
  have ahead := ahead_receiving now .resynchronizing fragments
  have codec := codec_receiving now .resynchronizing fragments
  have outages := outages_receiving now .resynchronizing fragments
  have fresh : (receiving now .resynchronizing fragments).closed = true ∧
      (receiving now .resynchronizing fragments).reader.ended = false ∧
      (receiving now .resynchronizing fragments).reader.errored = false := by
    rw [receiving_eq]
    exact ⟨rfl, rfl, rfl⟩
  obtain ⟨closed, flowing, unerrored⟩ := fresh
  have going : ¬ (receiving now .resynchronizing fragments).intake.Exhausted := by
    intro exhausted
    exact absurd (flowing.symm.trans exhausted.1) Bool.false_ne_true
  have resync : (receiving now .resynchronizing fragments).reader.codec.resync = true :=
    congrArg Codec.resync codec
  obtain ⟨ended, reported, passing⟩ :=
    readyFrames_passing sound closed going resync unerrored (outages.trans unfailing)
  have nothing := ahead_of_reported passing.sound (passing.mode.trans resync) reported
  have given : Poll.frames (ready.frames.map (.frame ·.1) ++ [.ended]) = ready.frames.map (·.1) := by
    rw [Poll.frames_append]
    simp [Poll.frames, Poll.frame?, List.filterMap_map, Function.comp_def]
  have unused : Codec.resynchronizing.discarded = 0 := rfl
  have scanned := passing.scan
  have counted := passing.counted
  rw [ahead, nothing, given, Frame.scan_nil, List.append_nil] at scanned
  rw [ahead, codec, nothing, given, ← scanned, List.length_nil, Nat.add_zero, unused,
    Nat.zero_add] at counted
  exact ⟨ended, scanned.symm, counted.symm⟩

end Line

end MeterBus
