import MeterBus.Proofs.Proxy.Turn
import MeterBus.Proofs.Stream.Validity

/-!
# What proceedings keep

`Ensures` leads from a property of the state before a proceeding to one of the state behind it, which
may depend on whether the proceeding came to its end. Much of what is kept is kept for one reason: an
elementary proceeding takes something off a line, and tells of it. `Upkept` says what a property has to
stand for that. What is upkept is kept by polling, by looking for a frame, and by dropping what the slave
has ready; what the passage of time leaves alone as well is kept by waiting.
-/

namespace MeterBus.Multiplexer

variable {α β : Type} {before kept halted : Multiplexer → Prop} {told : Activity → Prop}
  {mux : Multiplexer} {port : Port} {frame : Frame}

/-- Whether a proceeding leads from states of one kind to states of another when it comes to its end,
and to states of a third kind when it does not. -/
def Ensures (before : Multiplexer → Prop) (proceeding : Proceeding α)
    (ended : α → Multiplexer → Prop) (halted : Multiplexer → Prop) : Prop :=
  ∀ mux, before mux →
    match proceeding mux with
    | .ok value after => ended value after
    | .error _ after => halted after

/-- Whether a proceeding keeps a property of states, whether it comes to its end or not. -/
def Keeps (kept : Multiplexer → Prop) (proceeding : Proceeding α) : Prop :=
  Ensures kept proceeding (fun _ => kept) kept

namespace Ensures

variable {proceeding first : Proceeding α} {second : α → Proceeding β}
  {ended between : α → Multiplexer → Prop} {behind : β → Multiplexer → Prop}

/-- A proceeding that does nothing. -/
theorem pure (value : α) (here : ∀ mux, before mux → ended value mux) :
    Ensures before (Pure.pure value) ended halted :=
  here

/-- A proceeding that halts at once. -/
theorem halt (halt : Halt) (here : ∀ mux, before mux → halted mux) :
    Ensures before (throw halt : Proceeding α) ended halted :=
  here

/-- A proceeding goes on where another one ends. -/
theorem bind (one : Ensures before first between halted)
    (two : ∀ value, Ensures (between value) (second value) behind halted) :
    Ensures before (first >>= second) behind halted := by
  intro mux here
  have there := one mux here
  simp only [Bind.bind, EStateM.bind]
  cases result : first mux with
  | ok value after =>
    rw [result] at there
    exact two value after there
  | error halt after =>
    rw [result] at there
    exact there

/-- A proceeding that begins by looking at the state goes on from that state. -/
theorem get_bind {second : Multiplexer → Proceeding α}
    (rest : ∀ state, Ensures (fun mux => mux = state ∧ before mux) (second state) ended halted) :
    Ensures before (get >>= second) ended halted :=
  fun mux here => rest mux mux ⟨rfl, here⟩

/-- A stronger property before a proceeding leads to weaker ones behind it. -/
theorem mono {stronger weaker : Multiplexer → Prop} {ended' : α → Multiplexer → Prop}
    (ensures : Ensures before proceeding ended halted) (here : ∀ mux, stronger mux → before mux)
    (there : ∀ value mux, ended value mux → ended' value mux)
    (short : ∀ mux, halted mux → weaker mux) : Ensures stronger proceeding ended' weaker := by
  intro mux strong
  have behind := ensures mux (here mux strong)
  cases result : proceeding mux with
  | ok value after =>
    rw [result] at behind
    exact there value after behind
  | error halt after =>
    rw [result] at behind
    exact short after behind

/-- A property that is stronger before a proceeding does as well. -/
theorem of_stronger {stronger : Multiplexer → Prop}
    (ensures : Ensures before proceeding ended halted) (here : ∀ mux, stronger mux → before mux) :
    Ensures stronger proceeding ended halted :=
  ensures.mono here (fun _ _ there => there) fun _ short => short

/-- What holds behind a proceeding in either case. -/
theorem left (ensures : Ensures before proceeding (fun _ => halted) halted) (here : before mux) :
    halted (leftBy (proceeding mux)) := by
  have behind := ensures mux here
  cases result : proceeding mux <;> rwa [result] at behind

/-- What holds behind a proceeding that comes to its end. -/
theorem of_outcome {value : α} (ensures : Ensures before proceeding ended halted) (here : before mux)
    (comes : outcomeOf (proceeding mux) = .ok value) : ended value (leftBy (proceeding mux)) := by
  have behind := ensures mux here
  rwa [eq_ok_of_outcomeOf comes] at behind

end Ensures

/-- What holds behind a proceeding in either case is kept. -/
theorem Keeps.of_left {proceeding : Proceeding α}
    (left : ∀ mux, kept mux → kept (leftBy (proceeding mux))) : Keeps kept proceeding := by
  intro mux here
  have behind := left mux here
  cases result : proceeding mux <;> rwa [result] at behind

/-- What a proceeding keeps holds behind it, and less will do when it halts. -/
theorem Keeps.halting {weaker : Multiplexer → Prop} {proceeding : Proceeding α}
    (keeps : Keeps kept proceeding) (weaken : ∀ mux, kept mux → weaker mux) :
    Ensures kept proceeding (fun _ => kept) weaker :=
  keeps.mono (fun _ here => here) (fun _ _ here => here) weaken

/-- What a proceeding keeps holds behind it besides what it leads to. -/
theorem Ensures.keeping {proceeding : Proceeding α} {ended : α → Multiplexer → Prop}
    (ensures : Ensures before proceeding ended halted)
    (keeps : Keeps kept proceeding) :
    Ensures (fun mux => before mux ∧ kept mux) proceeding
      (fun value mux => ended value mux ∧ kept mux) (fun mux => halted mux ∧ kept mux) := by
  rintro mux ⟨here, alongside⟩
  have behind := ensures mux here
  have aside := keeps mux alongside
  cases result : proceeding mux with
  | ok value after =>
    rw [result] at behind aside
    exact ⟨behind, aside⟩
  | error halt after =>
    rw [result] at behind aside
    exact ⟨behind, aside⟩

/-- What every step keeps is kept by steps that are made one after the other. -/
theorem Keeps.stepOn {deadline : Nat} (keeps : Keeps kept (step deadline)) :
    Keeps kept (stepOn deadline) := by
  intro mux here
  fun_induction Multiplexer.stepOn deadline mux with
  | case1 mux cancelled => exact here
  | case2 mux going halt after given =>
    have stepping := keeps mux here
    rwa [given] at stepping
  | case3 mux going after given stopped =>
    have stepping := keeps mux here
    rwa [given] at stepping
  | case4 mux going after given goingThen inductionHypothesis =>
    have stepping := keeps mux here
    rw [given] at stepping
    exact inductionHypothesis stepping

/-! ## Upkeep -/

/-- Whether a property of states is kept when something is taken off a line, and when activities of a kind
are told. What a codec reports is of that kind. -/
structure Maintained (told : Activity → Prop) (kept : Multiplexer → Prop) : Prop where
  reports : ∀ port event, told (.codec port event)
  taking : ∀ port line mux, (mux.lines.get port).Draws line → kept mux → kept (mux.setLine port line)
  telling : ∀ activity mux, told activity → kept mux → kept (mux.note activity)

/-- Whether a property of states is kept when a port is not listened to any more as well. -/
structure Upkept (told : Activity → Prop) (kept : Multiplexer → Prop) : Prop
    extends Maintained told kept where
  deafening : ∀ port mux, kept mux → kept (mux.deafTo port)

/-- Whether the activities of a kind tell of frames that are taken, of ends, and of late frames. -/
structure TellsTakings (told : Activity → Prop) : Prop where
  received : ∀ port frame, told (.received port frame)
  ended : ∀ port, told (.ended port)
  stale : ∀ frame, told (.stale frame)
  unexpected : ∀ port frame, told (.unexpected port frame)

/-- Everything can be told of frames that are taken. -/
theorem tellsTakings_true : TellsTakings fun _ => True :=
  ⟨fun _ _ => trivial, fun _ => trivial, fun _ => trivial, fun _ _ => trivial⟩

namespace Maintained

/-- What a codec reports can be told. -/
theorem noteCodec (maintained : Maintained told kept) (events : List Codec.Event) (here : kept mux) :
    kept (mux.noteCodec port events) := by
  induction events generalizing mux with
  | nil => exact here
  | cons event events inductionHypothesis =>
    exact inductionHypothesis (maintained.telling _ _ (maintained.reports port event) here)

/-- Frames that came too late can be told. -/
theorem noteStale (maintained : Maintained told kept) (tells : TellsTakings told)
    (frames : List (Frame × List Codec.Event)) (here : kept mux) : kept (mux.noteStale frames) := by
  induction frames generalizing mux with
  | nil => exact here
  | cons stale frames inductionHypothesis =>
    apply inductionHypothesis
    apply maintained.telling _ _ (tells.unexpected .slave stale.1)
    apply maintained.telling _ _ (tells.stale stale.1)
    apply maintained.telling _ _ (tells.received .slave stale.1)
    exact maintained.noteCodec stale.2 here

/-- Something is told. -/
theorem report {activity : Activity} (maintained : Maintained told kept) (tells : told activity) :
    Keeps kept (report activity) :=
  fun mux here => maintained.telling activity mux tells here

/-- A poll takes something off a line. -/
theorem poll (maintained : Maintained told kept) (port : Port) : Keeps kept (poll port) :=
  fun mux here => maintained.noteCodec _ (maintained.taking port _ mux (.poll mux.now .none) here)

/-- Dropping what the slave has ready. -/
theorem discardStale (maintained : Maintained told kept) (tells : TellsTakings told) :
    Keeps kept discardStale := by
  intro mux here
  have draws : (mux.lines.get .slave).Draws mux.ready.line := Line.readyFrames_draws ..
  have checked : kept mux.checking :=
    maintained.noteCodec _ (maintained.noteStale tells _ (maintained.taking .slave _ mux draws here))
  rw [discardStale_eq]
  cases mux.ready.last <;> exact checked

/-- Handing a frame to a port, if what is kept is kept by what becomes of its line. -/
theorem send (maintained : Maintained told kept)
    (offering : ∀ mux, kept mux → kept (mux.setLine port (mux.offer port frame).line))
    (relieves : ∀ bytes, told (.relieved port bytes)) (sends : ∀ bytes, told (.sent port frame bytes)) :
    Keeps kept (send port frame) := by
  intro mux here
  have relieved : kept ((mux.setLine port (mux.offer port frame).line).noteRelief port
      (mux.offer port frame).relieved) := by
    unfold noteRelief
    split
    · exact offering mux here
    · exact maintained.telling _ _ (relieves _) (offering mux here)
  have offered : kept (mux.offering port frame) := maintained.noteCodec _ relieved
  cases written : (mux.offer port frame).written with
  | ok bytes =>
    rw [send_eq_of_ok written]
    exact maintained.telling _ _ (sends bytes) offered
  | error cause =>
    rw [send_eq_of_error written]
    exact offered

/-- Waiting for the slave, if what is kept is kept by the passage of time as well. What comes of it is
valid. -/
theorem awaitSlave (maintained : Maintained told kept)
    (passing : ∀ time mux, kept mux → kept (mux.atTime time)) (limit : Nat) :
    Ensures kept (awaitSlave limit)
      (fun polled mux => kept mux ∧ ∀ reply, polled = .frame reply → reply.validate = .ok ()) kept := by
  intro mux here
  have draws : (mux.lines.get .slave).Draws (mux.awaited limit).line := Line.awaitAt_draws ..
  constructor
  · exact maintained.noteCodec _ (passing _ _ (maintained.taking .slave _ mux draws here))
  · intro reply given
    exact Line.validate_of_awaitAt given

/-- Waiting for the slave and relaying its answer, if what is kept is kept by the passage of time as
well. What is left when the answer is handed over may be weaker. -/
theorem answering {weaker : Multiplexer → Prop} {origin : Port} (maintained : Maintained told kept)
    (passing : ∀ time mux, kept mux → kept (mux.atTime time))
    (lateness : ∀ timeout, told (.timedOut origin timeout))
    (answers : ∀ reply, told (.received .slave reply) ∧ told (.relaying reply origin))
    (sending : ∀ reply, reply.validate = .ok () → Ensures kept
      (do Multiplexer.send origin reply; Multiplexer.report (.relayed origin)) (fun _ => weaker) weaker)
    (weaken : ∀ mux, kept mux → weaker mux) (deadline : Nat) :
    Ensures kept (answering deadline origin) (fun _ => weaker) weaker := by
  apply Ensures.get_bind
  intro state
  apply ((maintained.awaitSlave passing _).mono (fun _ here => here.2) (fun _ _ there => there) weaken).bind
  intro polled
  cases polled with
  | pending =>
    dsimp only
    split
    · exact (maintained.report (lateness _)).mono (fun _ here => here.1) (fun _ => weaken) weaken
    · exact .halt _ fun mux here => weaken mux here.1
  | ended => exact .halt _ fun mux here => weaken mux here.1
  | failure cause => exact .halt _ fun mux here => weaken mux here.1
  | frame reply =>
    obtain ⟨received, relaying⟩ := answers reply
    -- that the reply is valid is known of the poll, and not of the states behind it
    intro mux here
    have valid := here.2 reply rfl
    refine Ensures.bind ((maintained.report received).halting weaken) ?_ mux here.1
    intro _
    apply ((maintained.report relaying).halting weaken).bind
    exact fun _ => sending reply valid

end Maintained

namespace Upkept

/-- Looking for a frame on a port. -/
theorem take? (upkept : Upkept told kept) (tells : TellsTakings told) (port : Port) :
    Keeps kept (take? port) := by
  apply Ensures.get_bind
  intro state
  split
  · exact .pure _ fun _ here => here.2
  · apply Ensures.bind ((upkept.poll port).of_stronger fun _ here => here.2)
    intro polled
    cases polled with
    | pending => exact .pure _ fun _ here => here
    | ended =>
      apply (upkept.report (tells.ended port)).bind
      intro _ mux here
      exact upkept.deafening port mux here
    | failure cause => exact .halt _ fun _ here => here
    | frame frame =>
      apply (upkept.report (tells.received port frame)).bind
      exact fun _ => .pure _ fun _ here => here

/-- Looking for a frame on some ports. -/
theorem takeFirst? (upkept : Upkept told kept) (tells : TellsTakings told) (ports : List Port) :
    Keeps kept (takeFirst? ports) := by
  induction ports with
  | nil => exact .pure _ fun _ here => here
  | cons port others inductionHypothesis =>
    apply (upkept.take? tells port).bind
    intro taken
    cases taken with
    | none => exact inductionHypothesis
    | some frame => exact .pure _ fun _ here => here

/-- Looking at the ports at some instants, if what is kept is kept by the passage of time as well. -/
theorem takeAt (upkept : Upkept told kept) (tells : TellsTakings told)
    (passing : ∀ time mux, kept mux → kept (mux.atTime time)) (stopping : told .cancelled)
    (deadline : Nat) (instants : List Nat) : Keeps kept (takeAt deadline instants) := by
  induction instants with
  | nil => exact fun mux here => passing deadline mux here
  | cons instant later inductionHypothesis =>
    rw [Multiplexer.takeAt]
    have advancing : Keeps kept (advanceTo instant) := passing instant
    apply advancing.bind
    intro _
    apply Ensures.get_bind
    intro state
    split
    · apply ((upkept.report stopping).of_stronger fun _ here => here.2).bind
      exact fun _ => .pure _ fun _ here => here
    · apply ((upkept.takeFirst? tells precedence).of_stronger fun _ here => here.2).bind
      intro found
      cases found with
      | some taken => exact .pure _ fun _ here => here
      | none =>
        apply Ensures.get_bind
        intro state
        split
        · exact inductionHypothesis.of_stronger fun _ here => here.2
        · exact .halt _ fun _ here => here.2

/-- Waiting for the next frame, if what is kept is kept by the passage of time as well. -/
theorem select (upkept : Upkept told kept) (tells : TellsTakings told)
    (passing : ∀ time mux, kept mux → kept (mux.atTime time)) (stopping : told .cancelled)
    (deadline : Nat) : Keeps kept (select deadline) := by
  apply Ensures.get_bind
  intro state
  have advancing : Keeps kept (advanceTo state.now) := passing state.now
  apply (advancing.of_stronger fun _ here => here.2).bind
  intro _
  split
  · exact .halt _ fun _ here => here
  · exact upkept.takeAt tells passing stopping deadline _

end Upkept

end MeterBus.Multiplexer
