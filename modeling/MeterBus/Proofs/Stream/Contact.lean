import MeterBus.Stream.Line

/-!
# Contacts with a line

A program does three things with a line: it polls it, it waits for it, and it hands it a frame.
`Line.Undergoes` lists them in order, each with what came of it, and leads from one state of the line
to another. Taking all that is ready is a list of polls of which the last gives no frame.
-/

namespace MeterBus

/-- One thing that is done with a line, and what comes of it. -/
inductive Contact where
  /-- The line is asked for what it gives at once. -/
  | poll (time : Nat) (answer : Poll)
  /-- The line is waited for up to a limit, and polled for the last time at the finish. -/
  | wait (start limit finish : Nat) (answer : Poll)
  /-- A frame is handed to the line, which is written or not. -/
  | write (time : Nat) (frame : Frame) (written : Except LinkError (List UInt8))

/-- What a contact gives; a write gives nothing. -/
def Contact.answer : Contact → Poll
  | .poll _ answer | .wait _ _ _ answer => answer
  | .write .. => .pending

/-- The polls at one instant that take some frames off a line. -/
def Contact.takings (now : Nat) (frames : List Frame) : List Contact :=
  frames.map fun frame => .poll now (.frame frame)

namespace Line

/-- Whether these contacts, one after the other, lead from one state of a line to another. -/
def Undergoes (line : Line) (contacts : List Contact) (after : Line) : Prop :=
  match contacts with
  | [] => after = line
  | .poll time answer :: later =>
    (line.poll time).1 = answer ∧ (line.poll time).2.1.Undergoes later after
  | .wait start limit finish answer :: later =>
    (line.await start limit).poll = answer ∧ (line.await start limit).time = finish ∧
      (line.await start limit).line.Undergoes later after
  | .write time frame written :: later =>
    (line.send time frame).written = written ∧ (line.send time frame).line.Undergoes later after

variable {line middle after : Line} {contacts later : List Contact} {now : Nat}

/-- Contacts go on where others end. -/
theorem Undergoes.append (first : line.Undergoes contacts middle)
    (second : middle.Undergoes later after) : line.Undergoes (contacts ++ later) after := by
  induction contacts generalizing line with
  | nil =>
    obtain rfl : middle = line := first
    exact second
  | cons contact others inductionHypothesis =>
    cases contact with
    | poll time answer => exact ⟨first.1, inductionHypothesis first.2⟩
    | wait start limit finish answer =>
      exact ⟨first.1, first.2.1, inductionHypothesis first.2.2⟩
    | write time frame written => exact ⟨first.1, inductionHypothesis first.2⟩

/-- What polls keep is kept by waiting. -/
theorem awaitAt_keeps (Kept : Line → Prop) (now : Nat) (later : List Nat)
    (polled : ∀ time line, Kept line → Kept (line.poll time).2.1) (kept : Kept line) :
    Kept (awaitAt now line later).line := by
  induction later generalizing now line with
  | nil =>
    have keptThen := polled now line kept
    unfold awaitAt
    split
    · next middle events given =>
      rw [given] at keptThen
      exact keptThen
    · next answer middle events _ given =>
      rw [given] at keptThen
      exact keptThen
  | cons next rest inductionHypothesis =>
    have keptThen := polled now line kept
    unfold awaitAt
    split
    · next middle events given =>
      rw [given] at keptThen
      exact inductionHypothesis next keptThen
    · next answer middle events _ given =>
      rw [given] at keptThen
      exact keptThen

/-- What polling and sending each keep is kept by any contacts. -/
theorem Undergoes.keeps (Kept : Line → Prop) (undergoes : line.Undergoes contacts after)
    (polled : ∀ time line, Kept line → Kept (line.poll time).2.1)
    (written : ∀ time frame line, Kept line → Kept (line.send time frame).line)
    (kept : Kept line) : Kept after := by
  induction contacts generalizing line with
  | nil =>
    obtain rfl : after = line := undergoes
    exact kept
  | cons contact others inductionHypothesis =>
    cases contact with
    | poll time answer => exact inductionHypothesis undergoes.2 (polled time line kept)
    | wait start limit finish answer =>
      exact inductionHypothesis undergoes.2.2 (awaitAt_keeps Kept start _ polled kept)
    | write time frame result => exact inductionHypothesis undergoes.2 (written time frame line kept)

/-- Whether polls, at whatever times, lead from one state of a line to another. -/
inductive Draws : Line → Line → Prop where
  /-- There is none. -/
  | none {line : Line} : Draws line line
  /-- There is one more behind others. -/
  | poll {line middle : Line} (time : Nat) (draws : Draws line middle) : Draws line (middle.poll time).2.1

/-- Polls go on where others end. -/
theorem Draws.trans (first : line.Draws middle) (second : middle.Draws after) : line.Draws after := by
  induction second with
  | none => exact first
  | poll time _ inductionHypothesis => exact .poll time inductionHypothesis

/-- What each poll keeps is kept by all of them. -/
theorem Draws.keeps (Kept : Line → Prop) (draws : line.Draws after)
    (polled : ∀ time line, Kept line → Kept (line.poll time).2.1) (kept : Kept line) : Kept after := by
  induction draws with
  | none => exact kept
  | poll time _ inductionHypothesis => exact polled time _ inductionHypothesis

/-- Polls leave what is sent alone. -/
theorem Draws.sending (draws : line.Draws after) :
    after.unsent = line.unsent ∧ after.answers = line.answers :=
  draws.keeps (fun after => after.unsent = line.unsent ∧ after.answers = line.answers)
    (fun _ _ same => same) ⟨rfl, rfl⟩

/-- Waiting is made of polls. -/
theorem awaitAt_draws (now : Nat) (line : Line) (later : List Nat) :
    line.Draws (awaitAt now line later).line :=
  awaitAt_keeps line.Draws now later (fun time _ draws => .poll time draws) .none

/-- Waiting leaves what is sent alone. -/
theorem awaitAt_sending (now : Nat) (line : Line) (later : List Nat) :
    (awaitAt now line later).line.unsent = line.unsent ∧
      (awaitAt now line later).line.answers = line.answers :=
  (awaitAt_draws now line later).sending

/-- Taking what is ready is made of polls. -/
theorem readyFrames_draws (now : Nat) (line : Line) : line.Draws (line.readyFrames now).line := by
  fun_induction readyFrames now line with
  | case1 line polled frame given others inductionHypothesis =>
    exact (Draws.none.poll now).trans inductionHypothesis
  | case2 line polled noFrame => exact .poll now .none

/-- What is ready is polled for until a poll gives no frame. -/
theorem readyFrames_undergoes (now : Nat) (line : Line) :
    line.Undergoes
        (Contact.takings now ((line.readyFrames now).frames.map (·.1)) ++
          [.poll now (line.readyFrames now).last])
        (line.readyFrames now).line ∧
      ∀ frame, (line.readyFrames now).last ≠ .frame frame := by
  fun_induction readyFrames now line with
  | case1 line polled frame given others inductionHypothesis =>
    exact ⟨⟨given, inductionHypothesis.1⟩, inductionHypothesis.2⟩
  | case2 line polled noFrame => exact ⟨⟨rfl, rfl⟩, noFrame⟩

end Line

end MeterBus
