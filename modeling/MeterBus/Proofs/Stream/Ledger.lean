import MeterBus.Proofs.Stream.Contact
import MeterBus.Proofs.Stream.Strict

/-!
# What contacts take off a strict line

The ledger of a strict line over the contacts of a program with it. Polls at one instant until
nothing comes take off the frames that one shot finds in what has been delivered, and leave the rest
in the buffer. A write puts the answers behind what is still to come. What a wait gives stands at the
front of all that is ahead.
-/

namespace MeterBus

namespace Line

variable {line after : Line} {now : Nat} {contacts later : List Contact}

/-- A poll of a strict line yields the frame at the front of what has been delivered, or nothing. -/
theorem poll_yields (now : Nat) (strict : line.reader.Strict) :
    Yield now line.intake (line.poll now).1 (line.poll now).2.1.intake :=
  pollReader_yields now line.closed line.reader line.arrivals strict

/-- Contacts that are made one after the other lead over a state in between. -/
theorem Undergoes.of_append (undergoes : line.Undergoes (contacts ++ later) after) :
    ∃ middle, line.Undergoes contacts middle ∧ middle.Undergoes later after := by
  induction contacts generalizing line with
  | nil => exact ⟨line, rfl, undergoes⟩
  | cons contact others inductionHypothesis =>
    cases contact with
    | poll time answer =>
      obtain ⟨middle, first, second⟩ := inductionHypothesis undergoes.2
      exact ⟨middle, ⟨undergoes.1, first⟩, second⟩
    | wait start limit finish answer =>
      obtain ⟨middle, first, second⟩ := inductionHypothesis undergoes.2.2
      exact ⟨middle, ⟨undergoes.1, undergoes.2.1, first⟩, second⟩
    | write time frame written =>
      obtain ⟨middle, first, second⟩ := inductionHypothesis undergoes.2
      exact ⟨middle, ⟨undergoes.1, first⟩, second⟩

/-- What a line has when all that is ready has been taken off. -/
structure Cleared (now : Nat) (before : Line) (stale : List Frame) (after : Line) : Prop where
  strict : after.reader.Strict
  stale : stale = (Frame.oneShot (before.intake.delivered now)).frames
  buffer : after.reader.buffer = (Frame.oneShot (before.intake.delivered now)).rest
  arrivals : after.arrivals = before.intake.coming now
  answers : after.answers = before.answers

/-- Polls that take frames until nothing comes take off all that one shot finds. -/
theorem Undergoes.cleared {stale : List Frame} (strict : line.reader.Strict)
    (undergoes : line.Undergoes (Contact.takings now stale ++ [.poll now .pending]) after) :
    Cleared now line stale after := by
  induction stale generalizing line with
  | nil =>
    obtain ⟨given, rfl⟩ := undergoes
    have yield := poll_yields now strict
    rw [given] at yield
    obtain ⟨read, reason, failed⟩ := yield.cleared rfl
    change Frame.read (line.poll now).2.1.reader.buffer = .error reason at failed
    have buffered : line.intake.delivered now = (line.poll now).2.1.reader.buffer :=
      yield.delivered.trans (Intake.delivered_of_read read)
    have shot := Frame.oneShot_of_error failed
    rw [← buffered] at shot
    constructor
    · exact yield.strict
    · rw [shot]
    · rw [shot, ← buffered]
    · exact read
    · rfl
  | cons frame others inductionHypothesis =>
    obtain ⟨given, undergoes⟩ := undergoes
    have yield := poll_yields now strict
    rw [given] at yield
    have cleared := inductionHypothesis yield.strict undergoes
    have heads := yield.front frame rfl
    have split : line.intake.delivered now
        = frame.layout ++ (line.poll now).2.1.intake.delivered now := yield.delivered
    rw [split] at heads
    have shot := heads.oneShot
    rw [← split] at shot
    constructor
    · exact cleared.strict
    · rw [shot, ← cleared.stale]
    · rw [shot]
      exact cleared.buffer
    · rw [cleared.arrivals]
      exact yield.coming
    · exact cleared.answers

/-- What a line becomes that has written: its reader and its end are left alone, and some of the prepared
answers come behind what is still to come. -/
structure Calls (now : Nat) (before after : Line) : Prop where
  reader : after.reader = before.reader
  closed : after.closed = before.closed
  answers : ∃ count, after.answers = before.answers.drop count ∧ after.arrivals = before.arrivals ++
    (before.answers.take count).flatMap (Delivery.arrivals now)

/-- Nothing is written. -/
theorem Calls.refl (now : Nat) (line : Line) : Calls now line line :=
  ⟨rfl, rfl, 0, by simp, by simp⟩

/-- Writes are made one after the other. -/
theorem Calls.trans {middle : Line} (first : Calls now line middle)
    (second : Calls now middle after) : Calls now line after := by
  obtain ⟨reader, closed, count, answers, arrivals⟩ := first
  obtain ⟨readerThen, closedThen, countThen, answersThen, arrivalsThen⟩ := second
  constructor
  · exact readerThen.trans reader
  · exact closedThen.trans closed
  · refine ⟨count + countThen, ?_, ?_⟩
    · rw [answersThen, answers, List.drop_drop]
    · rw [arrivalsThen, arrivals, answers, List.append_assoc, ← List.flatMap_append, List.take_add]

/-- A write calls forth the next answer, if it does not fail. -/
theorem flush_calls (now : Nat) (line : Line) : Calls now line (line.flush now).2 := by
  constructor
  · unfold flush
    split <;> rfl
  · unfold flush
    split <;> rfl
  · unfold flush
    split
    · exact ⟨0, by simp, by simp⟩
    · refine ⟨1, List.drop_one.symm, ?_⟩
      cases line.answers <;> simp [Delivery.arrivals]

/-- Sending a frame calls forth the answers to what is written. -/
theorem send_calls (now : Nat) (frame : Frame) (line : Line) :
    Calls now line (line.send now frame).line := by
  have relieving : Calls now line (line.relieve now).2 := by
    unfold relieve
    split
    · exact flush_calls now line
    · exact .refl now line
  unfold send
  split
  · next cause middle relieved =>
    rw [relieved] at relieving
    exact relieving
  · next written middle relieved =>
    rw [relieved] at relieving
    dsimp only
    split
    · exact relieving
    · next wire encoded =>
      have buffered : Calls now middle
          { middle with unsent := (middle.reader.codec.encode frame middle.unsent).buffer } :=
        ⟨rfl, rfl, 0, by simp, by simp⟩
      exact (relieving.trans buffered).trans (flush_calls now _)

/-- What is taken off all that is ahead of a strict line. -/
structure Takes (before : Line) (given : Poll) (after : Line) : Prop where
  strict : after.reader.Strict
  ahead : before.intake.ahead = given.layout ++ after.intake.ahead
  front : ∀ frame, given = .frame frame → frame.Heads before.intake.ahead

/-- What a poll takes off what has been delivered, it takes off all that is ahead. -/
theorem poll_takes (now : Nat) (strict : line.reader.Strict) :
    Takes line (line.poll now).1 (line.poll now).2.1 := by
  have yield := poll_yields now strict
  constructor
  · exact yield.strict
  · rw [← Intake.delivered_append_coming now, ← Intake.delivered_append_coming now,
      yield.delivered, yield.coming, List.append_assoc]
  · intro frame given
    rw [← Intake.delivered_append_coming now]
    exact (yield.front frame given).append _

/-- What waiting for a strict line gives stands at the front of all that is ahead. -/
theorem awaitAt_takes (now : Nat) (later : List Nat) (strict : line.reader.Strict) :
    Takes line (awaitAt now line later).poll (awaitAt now line later).line := by
  induction later generalizing now line with
  | nil =>
    have takes := poll_takes now strict
    unfold awaitAt
    split
    · next middle events polled =>
      rw [polled] at takes
      exact takes
    · next given middle events _ polled =>
      rw [polled] at takes
      exact takes
  | cons next rest inductionHypothesis =>
    have takes := poll_takes now strict
    unfold awaitAt
    split
    · next middle events polled =>
      rw [polled] at takes
      -- the poll gave nothing, so that the bytes ahead are the same
      have behind := inductionHypothesis next takes.strict
      have same : line.intake.ahead = middle.intake.ahead := takes.ahead
      exact ⟨behind.strict, same.trans behind.ahead, same ▸ behind.front⟩
    · next given middle events _ polled =>
      rw [polled] at takes
      exact takes

/-- Contacts leave a strict line strict. -/
theorem Undergoes.strict (strict : line.reader.Strict) (undergoes : line.Undergoes contacts after) :
    after.reader.Strict := by
  apply undergoes.keeps fun line => line.reader.Strict
  · exact fun time line strict => (poll_yields time strict).strict
  · intro time frame line strict
    rw [(send_calls time frame line).reader]
    exact strict
  · exact strict

/-- The bytes that become readable behind a write, if it calls forth so many answers: those that are
still to come, and those of the answers. -/
def freshBytes (now count : Nat) (line : Line) : List UInt8 :=
  (line.intake.coming now ++ (line.answers.take count).flatMap (Delivery.arrivals now)).flatMap
    (·.chunk.content)

/-- What a wait gives behind a write, when all that was ready has been taken off before, is what had
been delivered of a frame together with the next of the bytes that become readable. It takes one of
these at least. -/
theorem Undergoes.reply {stale : List Frame} {request reply : Frame} {bytes : List UInt8}
    {start limit finish : Nat} (strict : line.reader.Strict)
    (undergoes : line.Undergoes (Contact.takings now stale ++ [.poll now .pending] ++
      [.write now request (.ok bytes), .wait start limit finish (.frame reply)]) after) :
    ∃ count fresh, fresh ≠ [] ∧
      reply.layout = (Frame.oneShot (line.intake.delivered now)).rest ++ fresh ∧
      fresh <+: line.freshBytes now count := by
  obtain ⟨cleared, checking, asking⟩ := undergoes.of_append
  obtain ⟨_, given, _, _⟩ := asking
  have clear := checking.cleared strict
  obtain ⟨reader, _, count, _, arrivals⟩ := send_calls now request cleared
  have strictThen : (cleared.send now request).line.reader.Strict := by
    rw [reader]
    exact clear.strict
  have takes : Takes _ ((cleared.send now request).line.await start limit).poll _ :=
    awaitAt_takes start _ strictThen
  rw [given] at takes
  have ahead : (cleared.send now request).line.intake.ahead
      = (Frame.oneShot (line.intake.delivered now)).rest ++ line.freshBytes now count := by
    rw [Intake.ahead, freshBytes, ← clear.buffer, ← clear.answers, ← clear.arrivals]
    exact congrArg₂ (fun reader arrivals => reader.buffer ++ arrivals.flatMap (·.chunk.content))
      reader arrivals
  have heads := takes.front reply rfl
  have whole : (Frame.oneShot (line.intake.delivered now)).rest ++ line.freshBytes now count
      = reply.layout ++ _ := ahead.symm.trans takes.ahead
  -- no frame stands in the rest, so that the reply does not end in it
  have outside (suffix : List UInt8) :
      (Frame.oneShot (line.intake.delivered now)).rest ≠ reply.layout ++ suffix := by
    intro inside
    obtain ⟨consumed, accepted⟩ := heads.layout_append suffix
    have stopped := Frame.read_oneShot_rest (line.intake.delivered now)
    rw [inside, accepted] at stopped
    cases stopped
  rcases List.append_eq_append_iff.1 whole with ⟨fresh, layout, bytes⟩ | ⟨suffix, rest, _⟩
  · refine ⟨count, fresh, ?_, layout, ?_⟩
    · rintro rfl
      apply outside []
      rw [layout]
      simp
    · rw [bytes]
      exact List.prefix_append _ _
  · exact absurd rest (outside suffix)

end Line

end MeterBus
