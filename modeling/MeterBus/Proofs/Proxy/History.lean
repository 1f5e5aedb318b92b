import MeterBus.Proofs.Proxy.Turn

/-!
# Histories of a multiplexer

A history is a list of things that happen to a multiplexer, in its surroundings and by calls. Its
story is then a chain of turns, one for each step, in calls of `step` and in calls of `run` alike.
`Turns` is that chain, together with the number of turns that did not come to their end.
-/

namespace MeterBus

/-- One thing that happens to a multiplexer. A call is given up when the patience of its caller, in
milliseconds, is at an end. -/
inductive Happening where
  | feed (port : Port) (delivery : Delivery)
  | close (port : Port)
  | prepare (port : Port) (answer : List Delivery)
  | breakWrite (port : Port) (fault : LinkError)
  | cancel
  | cancelAfter (delay : Nat)
  | elapse (duration : Nat)
  | step (patience : Nat)
  | run (patience : Nat)

/-- What a happening makes of a multiplexer. -/
def Happening.proceeding : Happening → Proceeding Unit
  | .feed port delivery => modify (Multiplexer.feed port delivery)
  | .close port => modify (Multiplexer.close port)
  | .prepare port answer => modify (Multiplexer.prepare port answer)
  | .breakWrite port fault => modify (Multiplexer.breakWrite port fault)
  | .cancel => modify Multiplexer.cancel
  | .cancelAfter delay => modify (Multiplexer.cancelAfter delay)
  | .elapse duration => modify (Multiplexer.elapse duration)
  | .step patience => do Multiplexer.step ((← get).now + patience)
  | .run patience => do Multiplexer.run ((← get).now + patience)

namespace Multiplexer

/-- The number of calls that did not come to their end, of one. -/
def lapses : Except Halt Unit → Nat
  | .ok () => 0
  | .error _ => 1

/-- A multiplexer that starts on lines in any state. -/
def startingOn (lines : PerPort Line) (routing : Routing) : Multiplexer :=
  { fresh routing with lines := lines }

/-- The multiplexer behind a history. -/
def behind (mux : Multiplexer) : List Happening → Multiplexer
  | [] => mux
  | happening :: later => (leftBy (happening.proceeding mux)).behind later

/-- The number of calls of a history that failed or were given up. -/
def failures (mux : Multiplexer) : List Happening → Nat
  | [] => 0
  | happening :: later =>
    lapses (outcomeOf (happening.proceeding mux))
      + (leftBy (happening.proceeding mux)).failures later

/-- A chain of turns: what they did with the lines, what they told, and how many of them did not come
to their end. -/
inductive Turns (routing : Routing) : Contacts → List Activity → Nat → Prop where
  /-- No step has been made. -/
  | none : Turns routing [] [] 0
  /-- A step is made where others left off. -/
  | turn {contacts tale failures deadline found mux later more outcome after}
      (before : Turns routing contacts tale failures)
      (turn : Turn routing deadline found later more outcome) (passage : Passage mux later more after) :
      Turns routing (contacts ++ later) (tale ++ more) (failures + lapses outcome)

/-- Whether the story of a multiplexer is a chain of turns. -/
def Recounts (routing : Routing) (failures : Nat) (mux : Multiplexer) : Prop :=
  mux.routing = routing ∧ ∃ contacts, Turns routing contacts mux.story failures

variable {routing : Routing} {count : Nat} {mux : Multiplexer}

/-- What neither tells anything nor changes the rules leaves a chain of turns as it is. -/
theorem Recounts.of_eq {after : Multiplexer} (recounts : mux.Recounts routing count)
    (rules : after.routing = mux.routing) (story : after.story = mux.story) :
    after.Recounts routing count := by
  obtain ⟨same, contacts, turns⟩ := recounts
  rw [← story] at turns
  exact ⟨rules.trans same, contacts, turns⟩

/-- A step is a further turn. -/
theorem recounts_step (deadline : Nat) (recounts : mux.Recounts routing count) :
    (leftBy (step deadline mux)).Recounts routing
      (count + lapses (outcomeOf (step deadline mux))) := by
  obtain ⟨same, contacts, turns⟩ := recounts
  obtain ⟨later, more, turn, passage⟩ := step_follows deadline mux
  rw [same] at turn
  constructor
  · exact passage.routing.trans same
  · rw [passage.story]
    exact ⟨contacts ++ later, .turn turns turn passage⟩

/-- Steps that are made one after the other are further turns, of which only the last may fail. -/
theorem recounts_stepOn (deadline : Nat) (recounts : mux.Recounts routing count) :
    (leftBy (stepOn deadline mux)).Recounts routing
      (count + lapses (outcomeOf (stepOn deadline mux))) := by
  fun_induction stepOn deadline mux with
  | case1 mux cancelled => exact recounts
  | case2 mux going halt after given =>
    have stepping := recounts_step deadline recounts
    rw [given] at stepping
    exact stepping
  | case3 mux going after given stopped =>
    have stepping := recounts_step deadline recounts
    rw [given] at stepping
    exact stepping
  | case4 mux going after given goingThen inductionHypothesis =>
    have stepping := recounts_step deadline recounts
    rw [given] at stepping
    exact inductionHypothesis stepping

/-- Whatever happens, the story stays a chain of turns. -/
theorem recounts_proceeding (happening : Happening) (recounts : mux.Recounts routing count) :
    (leftBy (happening.proceeding mux)).Recounts routing
      (count + lapses (outcomeOf (happening.proceeding mux))) := by
  cases happening with
  | step patience => exact recounts_step _ recounts
  | run patience =>
    have advanced : (mux.atTime mux.now).Recounts routing count := recounts.of_eq rfl rfl
    exact recounts_stepOn (mux.now + patience) advanced
  | _ => exact recounts.of_eq rfl rfl

/-- Behind every history, the story is a chain of turns. -/
theorem recounts_behind (happenings : List Happening) (recounts : mux.Recounts routing count) :
    (mux.behind happenings).Recounts routing (count + mux.failures happenings) := by
  induction happenings generalizing mux count with
  | nil => exact recounts
  | cons happening later inductionHypothesis =>
    have first := recounts_proceeding happening recounts
    rw [failures, ← Nat.add_assoc]
    exact inductionHypothesis first

/-- From the start on, the story of a multiplexer is a chain of turns. -/
theorem recounts_startingOn (lines : PerPort Line) (routing : Routing)
    (happenings : List Happening) :
    ((startingOn lines routing).behind happenings).Recounts routing
      ((startingOn lines routing).failures happenings) := by
  have start : (startingOn lines routing).Recounts routing 0 := ⟨rfl, [], .none⟩
  have recounts := recounts_behind happenings start
  rwa [Nat.zero_add] at recounts

end Multiplexer

end MeterBus
