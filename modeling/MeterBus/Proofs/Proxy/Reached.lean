import MeterBus.Proofs.Proxy.History
import MeterBus.Proofs.Proxy.Upkeep
import MeterBus.Proofs.Stream.Ledger

/-!
# The states in which a step can begin

A step begins in a state that a multiplexer which started afresh has reached, between two happenings
or between two steps of a run. In all of them the lines are strict: their readers drop nothing, and
have no frame in their buffers when they wait for more bytes.
-/

namespace MeterBus

namespace Multiplexer

/-- The states that a multiplexer reaches. -/
inductive Reached (routing : Routing) : Multiplexer → Prop where
  /-- It starts afresh. -/
  | fresh : Reached routing (fresh routing)
  /-- Something happens to it. -/
  | happened {mux} (happening : Happening) (reached : Reached routing mux) :
      Reached routing (leftBy (happening.proceeding mux))
  /-- A run takes note of the time before its first step. -/
  | noted {mux} (reached : Reached routing mux) : Reached routing (mux.atTime mux.now)
  /-- A run has made a step. -/
  | stepped {mux} (deadline : Nat) (reached : Reached routing mux) :
      Reached routing (leftBy (step deadline mux))

variable {routing : Routing} {mux before after : Multiplexer} {contacts : Contacts}
  {tale : List Activity}

/-- A history leads from a state that is reached to one that is. -/
theorem Reached.behind (reached : Reached routing mux) (happenings : List Happening) :
    Reached routing (mux.behind happenings) := by
  induction happenings generalizing mux with
  | nil => exact reached
  | cons happening later inductionHypothesis =>
    exact inductionHypothesis (.happened happening reached)

/-! ## What holds of every state that is reached -/

/-- What happens around a multiplexer: nothing is told, and the readers and the send buffers of its
lines are left alone. -/
structure Outside (before after : Multiplexer) : Prop where
  routing : after.routing = before.routing
  story : after.story = before.story
  listening : after.listening = before.listening
  reader : ∀ port, (after.lines.get port).reader = (before.lines.get port).reader
  unsent : ∀ port, (after.lines.get port).unsent = (before.lines.get port).unsent

/-- What happens on the other side of a line. -/
theorem Outside.onLine (mux : Multiplexer) (port : Port) {change : Line → Line}
    (reader : ∀ line, (change line).reader = line.reader)
    (unsent : ∀ line, (change line).unsent = line.unsent) : Outside mux (mux.onLine port change) where
  routing := rfl
  story := rfl
  listening := rfl
  reader := by
    intro other
    change ((mux.lines.set port (change (mux.lines.get port))).get other).reader = _
    by_cases same : other = port
    · rw [same, PerPort.get_set_self, reader]
    · rw [PerPort.get_set_of_ne _ _ same]
  unsent := by
    intro other
    change ((mux.lines.set port (change (mux.lines.get port))).get other).unsent = _
    by_cases same : other = port
    · rw [same, PerPort.get_set_self, unsent]
    · rw [PerPort.get_set_of_ne _ _ same]

/-- What steps that are made one after the other do lies between two states. -/
theorem exists_passage_stepOn (deadline : Nat) (mux : Multiplexer) :
    ∃ contacts tale, Passage mux contacts tale (leftBy (stepOn deadline mux)) := by
  have stepping : Keeps (fun after => ∃ contacts tale, Passage mux contacts tale after)
      (step deadline) := by
    apply Keeps.of_left
    rintro middle ⟨contacts, tale, passage⟩
    obtain ⟨later, more, _, passageThen⟩ := step_follows deadline middle
    exact ⟨_, _, passage.trans passageThen⟩
  exact stepping.stepOn.left ⟨[], [], .still rfl rfl rfl⟩

/-- The passage of time is around a multiplexer. -/
theorem Outside.atTime (time : Nat) (mux : Multiplexer) : Outside mux (mux.atTime time) :=
  ⟨rfl, rfl, rfl, fun _ => rfl, fun _ => rfl⟩

section Kept

variable {kept : Multiplexer → Prop}

/-- What is kept by what happens around a multiplexer and by every step is kept by every happening. -/
theorem Keeps.proceeding (around : ∀ before after, Outside before after → kept before → kept after)
    (stepping : ∀ deadline, Keeps kept (step deadline)) (happening : Happening) :
    Keeps kept happening.proceeding := by
  apply Keeps.of_left
  intro mux here
  have outside (after : Multiplexer) (outside : Outside mux after) : kept after :=
    around mux after outside here
  cases happening with
  | feed port delivery => exact outside _ (.onLine mux port (fun _ => rfl) fun _ => rfl)
  | close port => exact outside _ (.onLine mux port (fun _ => rfl) fun _ => rfl)
  | prepare port answer => exact outside _ (.onLine mux port (fun _ => rfl) fun _ => rfl)
  | breakWrite port fault => exact outside _ (.onLine mux port (fun _ => rfl) fun _ => rfl)
  | cancel => exact outside _ ⟨rfl, rfl, rfl, fun _ => rfl, fun _ => rfl⟩
  | cancelAfter delay => exact outside _ ⟨rfl, rfl, rfl, fun _ => rfl, fun _ => rfl⟩
  | elapse duration => exact outside _ ⟨rfl, rfl, rfl, fun _ => rfl, fun _ => rfl⟩
  | step patience => exact (stepping _).left here
  | run patience => exact (stepping _).stepOn.left (outside _ (.atTime mux.now mux))

/-- What is kept by every happening is kept by a history. -/
theorem Keeps.behind (around : ∀ before after, Outside before after → kept before → kept after)
    (stepping : ∀ deadline, Keeps kept (step deadline)) (happenings : List Happening)
    (here : kept mux) : kept (mux.behind happenings) := by
  induction happenings generalizing mux with
  | nil => exact here
  | cons happening later inductionHypothesis =>
    exact inductionHypothesis ((Keeps.proceeding around stepping happening).left here)

/-- What holds at the start, and is kept by what happens around a multiplexer and by every step, holds of
every state that is reached. -/
theorem Reached.kept_by_steps (reached : Reached routing mux) (start : kept (Multiplexer.fresh routing))
    (around : ∀ before after, Outside before after → kept before → kept after)
    (stepping : ∀ deadline, Keeps kept (step deadline)) : kept mux := by
  induction reached with
  | fresh => exact start
  | happened happening _ inductionHypothesis =>
    exact (Keeps.proceeding around stepping happening).left inductionHypothesis
  | noted _ inductionHypothesis => exact around _ _ (.atTime _ _) inductionHypothesis
  | stepped deadline _ inductionHypothesis => exact (stepping deadline).left inductionHypothesis

/-- What holds at the start, and is kept by what happens around a multiplexer and by what lies between two
states, holds of every state that is reached. -/
theorem Reached.keeps (reached : Reached routing mux) (start : kept (Multiplexer.fresh routing))
    (around : ∀ before after, Outside before after → kept before → kept after)
    (within : ∀ before contacts tale after, Passage before contacts tale after → kept before →
      kept after) : kept mux := by
  apply reached.kept_by_steps start around
  intro deadline
  apply Keeps.of_left
  intro before here
  obtain ⟨contacts, tale, _, passage⟩ := step_follows deadline before
  exact within _ _ _ _ passage here

end Kept

/-- Whether a multiplexer follows these rules, and the readers of its lines are strict. -/
structure Sound (routing : Routing) (mux : Multiplexer) : Prop where
  rules : mux.routing = routing
  strict : ∀ port, (mux.lines.get port).reader.Strict

/-- What is between two states leaves a multiplexer sound. -/
theorem Sound.of_passage (sound : before.Sound routing)
    (passage : Passage before contacts tale after) : after.Sound routing where
  rules := passage.routing.trans sound.rules
  strict := fun port => (passage.lines port).strict (sound.strict port)

/-- A fresh multiplexer is sound. -/
theorem sound_fresh (routing : Routing) : (fresh routing).Sound routing where
  rules := rfl
  strict := by
    intro port
    cases port <;> exact FrameReader.strict_fresh

/-- Every state that is reached is sound. -/
theorem Reached.sound (reached : Reached routing mux) : mux.Sound routing := by
  apply reached.keeps (sound_fresh routing)
  · intro before after outside sound
    constructor
    · exact outside.routing.trans sound.rules
    · intro port
      rw [outside.reader]
      exact sound.strict port
  · intro before contacts tale after passage sound
    exact sound.of_passage passage

end Multiplexer

end MeterBus
