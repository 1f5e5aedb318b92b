import MeterBus.Proofs.Stream.Ledger

/-!
# What contacts account for

Over any contacts with a strict line, its bytes are accounted for: those that were ahead before and those
that its writes called forth are the bytes of the frames that the contacts gave, one behind the other, and
those that are ahead behind them. `Frame.Opens` says so of byte strings, and `Line.Accounts` of two states
of a line.
-/

namespace MeterBus

/-- Whether a byte string opens with some frames, each of which is read off what is left by those before
it, and leaves a rest. -/
inductive Frame.Opens : List UInt8 → List Frame → List UInt8 → Prop where
  /-- Nothing is read. -/
  | none {rest} : Opens rest [] rest
  /-- A frame is read, and then others. -/
  | frame {frame bytes frames rest} (heads : Frame.Heads frame (frame.layout ++ bytes))
      (others : Opens bytes frames rest) : Opens (frame.layout ++ bytes) (frame :: frames) rest

namespace Frame.Opens

variable {bytes middle rest : List UInt8} {frames others : List Frame} {frame : Frame}

/-- The bytes are those of the frames, and the rest. -/
theorem eq_append (opens : Opens bytes frames rest) :
    bytes = frames.flatMap Frame.layout ++ rest := by
  induction opens with
  | none => rfl
  | frame heads others inductionHypothesis =>
    rw [inductionHypothesis, List.flatMap_cons, List.append_assoc]

/-- One frame at the front. -/
theorem single (heads : frame.Heads bytes) (split : bytes = frame.layout ++ rest) :
    Opens bytes [frame] rest := by
  subst split
  exact .frame heads .none

/-- The rest opens with further frames. -/
theorem trans (first : Opens bytes frames middle) (second : Opens middle others rest) :
    Opens bytes (frames ++ others) rest := by
  induction first with
  | none => exact second
  | frame heads _ inductionHypothesis => exact .frame heads (inductionHypothesis second)

/-- What comes behind is left. -/
theorem append (opens : Opens bytes frames rest) (suffix : List UInt8) :
    Opens (bytes ++ suffix) frames (rest ++ suffix) := by
  induction opens with
  | none => exact .none
  | frame heads _ inductionHypothesis =>
    rw [List.append_assoc]
    refine .frame ?_ inductionHypothesis
    rw [← List.append_assoc]
    exact heads.append suffix

/-- One shot finds the frames first, and then those of the rest. -/
theorem oneShot (opens : Opens bytes frames rest) :
    Frame.oneShot bytes
      = { Frame.oneShot rest with frames := frames ++ (Frame.oneShot rest).frames } := by
  induction opens with
  | none => rfl
  | frame heads _ inductionHypothesis =>
    rw [heads.oneShot, inductionHypothesis]
    rfl

end Frame.Opens

/-- The bytes of the deliveries are those that arrive. -/
theorem Delivery.content_arrivals (now : Nat) (deliveries : List Delivery) :
    (arrivals now deliveries).flatMap (·.chunk.content) = deliveries.flatMap (·.chunk.content) := by
  induction deliveries with
  | nil => rfl
  | cons delivery others inductionHypothesis =>
    simp only [arrivals] at inductionHypothesis
    by_cases void : delivery.chunk = .bytes []
    · simpa [arrivals, void, Chunk.content] using inductionHypothesis
    · simpa [arrivals, void] using inductionHypothesis

/-- The frame that the first of some answers gives comes first. -/
theorem Poll.frames_cons (answer : Poll) (answers : List Poll) :
    frames (answer :: answers) = answer.frame?.toList ++ frames answers := by
  cases answer <;> rfl

namespace Line

variable {line before middle after : Line} {contacts : List Contact} {now : Nat}

/-- The bytes of the answers that the writes between two states of a line called forth. -/
def calledForth (before after : Line) : List UInt8 :=
  (before.answers.take (before.answers.length - after.answers.length)).flatMap fun answer =>
    answer.flatMap (·.chunk.content)

/-- What is called forth where so many of the answers are gone. -/
theorem calledForth_of_drop {count : Nat} (gone : after.answers = before.answers.drop count) :
    calledForth before after
      = (before.answers.take count).flatMap fun answer => answer.flatMap (·.chunk.content) := by
  have taken : before.answers.take (before.answers.length - after.answers.length)
      = before.answers.take count := by
    rw [gone, List.length_drop, List.take_eq_take_iff]
    omega
  rw [calledForth, taken]

/-- Where the answers are the same, none was called forth. -/
theorem calledForth_of_eq (same : after.answers = before.answers) : calledForth before after = [] := by
  have gone : after.answers = before.answers.drop 0 := same
  rw [calledForth_of_drop gone]
  rfl

/-- What is ahead opens with what is taken off. -/
theorem Takes.opens {given : Poll} (takes : Takes before given after) :
    Frame.Opens before.intake.ahead given.frame?.toList after.intake.ahead := by
  cases given with
  | frame frame => exact .single (takes.front frame rfl) takes.ahead
  | _ =>
    rw [takes.ahead]
    exact .none

/-- How a strict line comes from another one that gave some frames in between. -/
structure Accounts (before : Line) (frames : List Frame) (after : Line) : Prop where
  strict : after.reader.Strict
  answers : ∃ count, after.answers = before.answers.drop count
  ahead : Frame.Opens (before.intake.ahead ++ before.calledForth after) frames after.intake.ahead

namespace Accounts

variable {frames others : List Frame}

/-- Nothing is done. -/
theorem refl (strict : line.reader.Strict) : Accounts line [] line where
  strict := strict
  answers := ⟨0, rfl⟩
  ahead := by
    rw [calledForth_of_eq rfl, List.append_nil]
    exact .none

/-- An account goes on where another one ends. -/
theorem trans (first : Accounts before frames middle) (second : Accounts middle others after) :
    Accounts before (frames ++ others) after := by
  obtain ⟨_, ⟨count, gone⟩, ahead⟩ := first
  obtain ⟨strict, ⟨countThen, goneThen⟩, aheadThen⟩ := second
  have goneBoth : after.answers = before.answers.drop (count + countThen) := by
    rw [goneThen, gone, List.drop_drop]
  refine ⟨strict, ⟨_, goneBoth⟩, ?_⟩
  rw [calledForth_of_drop goneThen, gone] at aheadThen
  rw [calledForth_of_drop gone] at ahead
  rw [calledForth_of_drop goneBoth, List.take_add, List.flatMap_append, ← List.append_assoc]
  exact (ahead.append _).trans aheadThen

/-- What is taken off a line whose answers stay. -/
theorem of_takes {given : Poll} (takes : Takes before given after)
    (same : after.answers = before.answers) : Accounts before given.frame?.toList after where
  strict := takes.strict
  answers := ⟨0, same⟩
  ahead := by
    rw [calledForth_of_eq same, List.append_nil]
    exact takes.opens

/-- What a write calls forth comes behind what is ahead. -/
theorem of_calls (strict : before.reader.Strict) (calls : Calls now before after) :
    Accounts before [] after := by
  obtain ⟨reader, _, count, gone, arrivals⟩ := calls
  constructor
  · rwa [reader]
  · exact ⟨count, gone⟩
  · have ahead : after.intake.ahead = before.intake.ahead ++ before.calledForth after := by
      rw [calledForth_of_drop gone, Intake.ahead, Intake.ahead]
      simp only [intake, reader, arrivals, List.flatMap_append, List.append_assoc,
        List.flatMap_assoc, Delivery.content_arrivals]
    rw [ahead]
    exact .none

end Accounts

/-- Contacts with a strict line account for its bytes. -/
theorem Undergoes.accounts (strict : line.reader.Strict) (undergoes : line.Undergoes contacts after) :
    Accounts line (Poll.frames (contacts.map Contact.answer)) after := by
  induction contacts generalizing line with
  | nil =>
    obtain rfl : after = line := undergoes
    exact .refl strict
  | cons contact others inductionHypothesis =>
    cases contact with
    | poll time answer =>
      obtain ⟨rfl, behind⟩ := undergoes
      have first : Accounts line _ (line.poll time).2.1 := .of_takes (poll_takes time strict) rfl
      rw [List.map_cons, Poll.frames_cons]
      exact first.trans (inductionHypothesis first.strict behind)
    | wait start limit finish answer =>
      obtain ⟨rfl, _, behind⟩ := undergoes
      have first : Accounts line _ (line.await start limit).line :=
        .of_takes (awaitAt_takes start _ strict) (awaitAt_sending start line _).2
      rw [List.map_cons, Poll.frames_cons]
      exact first.trans (inductionHypothesis first.strict behind)
    | write time frame written =>
      have first : Accounts line [] (line.send time frame).line :=
        .of_calls strict (send_calls time frame line)
      exact first.trans (inductionHypothesis first.strict undergoes.2)

end Line

end MeterBus
