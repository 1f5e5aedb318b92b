import Mathlib.Algebra.Order.BigOperators.Group.List
import Mathlib.Data.Finset.Dedup
import Mathlib.Data.Finset.Order
import MeterBus.Proofs.Proxy.Horizon
import MeterBus.Proofs.Proxy.Inventory
import MeterBus.Proofs.Proxy.Requests

/-!
# Progress

A step that comes to its end has taken a frame off some line, unless it has been cancelled. What can be
taken off the lines is limited, so a run that is not cancelled makes a limited number of such steps, and
then one that does not come to its end. When all lines are closed and the caller waits long enough, that
step fails.
-/

namespace MeterBus

/-- The number of frames that some contacts take from the ports together. -/
def Contacts.yield (contacts : Contacts) : Nat :=
  (Port.all.map fun port => (contacts.takenFrom port).length).sum

namespace Multiplexer

variable {routing : Routing} {mux before after last : Multiplexer} {port : Port} {frame : Frame}
  {contacts : Contacts} {tale : List Activity}
  {deadline timeout longest bound count : Nat}

/-- The number of frames that were received from the ports together. -/
def received (mux : Multiplexer) : Nat :=
  (Port.all.map fun port => (Metrics.ofTrace mux.trace).count (.framesReceived port.name)).sum

/-! ## What the lines can give -/

/-- Whether no contacts with the lines of the ports, whatever they are, take more frames than this. -/
def YieldsAtMost (bound : Nat) (mux : Multiplexer) : Prop :=
  ∀ contacts : Contacts,
    (∀ port, ∃ after, (mux.lines.get port).Undergoes (contacts.withPort port) after) →
      contacts.yield ≤ bound

/-- The number of frames that one shot finds in what is ahead of the lines and in the answers that are
prepared on them. -/
def prospect (mux : Multiplexer) : Nat :=
  (Port.all.map fun port => (mux.lines.get port).prospect).sum

/-- Strict lines give no more frames than they have in prospect. -/
theorem yieldsAtMost_prospect (strict : ∀ port, (mux.lines.get port).reader.Strict) :
    mux.YieldsAtMost mux.prospect := by
  intro contacts undergo
  apply List.sum_le_sum
  intro port _
  obtain ⟨after, undergoes⟩ := undergo port
  rw [contacts.takenFrom_eq]
  exact undergoes.length_frames_le (strict port)

/-- What is taken between two states is received. -/
theorem received_of_passage (passage : Passage before contacts tale after) :
    after.received = before.received + contacts.yield := by
  simp only [received, Contacts.yield, Port.all, List.map_cons, List.map_nil, List.sum_cons,
    List.sum_nil, count_received_eq_length_taken, taken_of_passage passage, List.length_append]
  omega

/-- No more is received between two states than the lines can give. -/
theorem YieldsAtMost.received_le (yields : before.YieldsAtMost bound)
    (passage : Passage before contacts tale after) : after.received ≤ before.received + bound := by
  rw [received_of_passage passage]
  exact Nat.add_le_add_left (yields contacts fun port => ⟨_, passage.lines port⟩) _

/-! ## Steps -/

/-- A wait that comes to its end without a frame has been cancelled. -/
theorem cancelled_of_select (selected : outcomeOf (select deadline mux) = .ok none) :
    (leftBy (select deadline mux)).cancelled = true := by
  have listening := anyListening_of_select selected
  rw [select_of_listening deadline listening] at selected ⊢
  rcases supply_takeAt (eq_ok_of_outcomeOf selected) with ⟨_, cancelled⟩ | ⟨some, _⟩
  · exact cancelled
  · exact absurd rfl some

/-- A wait that comes to a frame has received it. -/
theorem received_select (selected : outcomeOf (select deadline mux) = .ok (some (port, frame))) :
    (leftBy (select deadline mux)).received = mux.received + 1 := by
  simp only [received, Port.all, List.map_cons, List.map_nil, List.sum_cons, List.sum_nil,
    count_received_eq_length_taken, taken_select, selected, chosenFrom, List.length_append]
  cases port <;> simp <;> omega

/-- What a step has done that comes to its end: it has been cancelled while it waited, or it has taken one
frame to deal with, and received this at least. -/
inductive Success (deadline : Nat) (mux : Multiplexer) : Prop where
  /-- The work has been cancelled. -/
  | cancelled (selected : outcomeOf (select deadline mux) = .ok none)
      (stopped : (leftBy (step deadline mux)).cancelled = true)
  /-- One frame has been taken, and no other in the wait for it. -/
  | handled {port : Port} {frame : Frame}
      (selected : outcomeOf (select deadline mux) = .ok (some (port, frame)))
      (taken : ∀ other, (leftBy (select deadline mux)).taken other
        = mux.taken other ++ if port = other then [frame] else [])
      (received : mux.received < (leftBy (step deadline mux)).received)

/-- A step that comes to its end has done one of these. -/
theorem success_of_step (ended : outcomeOf (step deadline mux) = .ok ()) : Success deadline mux := by
  cases step_onward deadline mux with
  | halted selected whole =>
    rw [whole] at ended
    cases ended
  | idle selected whole =>
    refine .cancelled selected ?_
    rw [whole]
    exact cancelled_of_select selected
  | handled selected treatment passage =>
    refine .handled selected (fun other => ?_) ?_
    · rw [taken_select, selected]
      rfl
    · rw [received_of_passage passage, received_select selected]
      omega

/-! ## Runs -/

/-- So many steps, one after the other, come to their end, and the work is not cancelled in any of them. -/
inductive Strides (deadline : Nat) : Multiplexer → Nat → Multiplexer → Prop where
  /-- None is made. -/
  | none {mux : Multiplexer} : Strides deadline mux 0 mux
  /-- One is made, and then others. -/
  | step {mux after last : Multiplexer} {count : Nat} (ended : step deadline mux = .ok () after)
      (going : after.cancelled = false) (later : Strides deadline after count last) :
      Strides deadline mux (count + 1) last

/-- The steps of a run lie between two states. -/
theorem Strides.exists_passage (strides : Strides deadline mux count last) :
    ∃ contacts tale, Passage mux contacts tale last := by
  induction strides with
  | none => exact ⟨[], [], .still rfl rfl rfl⟩
  | @step mux after last count ended going later inductionHypothesis =>
    obtain ⟨contacts, tale, _, passage⟩ := step_follows deadline mux
    obtain ⟨others, more, passageThen⟩ := inductionHypothesis
    rw [ended] at passage
    exact ⟨_, _, passage.trans passageThen⟩

/-- Each step receives a frame at least. -/
theorem Strides.received_le (strides : Strides deadline mux count last) :
    mux.received + count ≤ last.received := by
  induction strides with
  | none => exact Nat.le_refl _
  | @step mux after last count ended going later inductionHypothesis =>
    have outcome : outcomeOf (Multiplexer.step deadline mux) = .ok () := by rw [ended]; rfl
    cases success_of_step outcome with
    | cancelled selected stopped =>
      rw [ended] at stopped
      cases going.symm.trans stopped
    | handled selected taken received =>
      rw [ended] at received
      have more : mux.received < after.received := received
      omega

/-- There are no more of them than frames that the lines can give. -/
theorem Strides.count_le (strides : Strides deadline mux count last)
    (yields : mux.YieldsAtMost bound) : count ≤ bound := by
  obtain ⟨contacts, tale, passage⟩ := strides.exists_passage
  have least := strides.received_le
  have most := yields.received_le passage
  omega

/-- Whether steps that are made one after the other end with one that does not come to its end, behind so
many that do. -/
def EndsShort (deadline : Nat) (mux : Multiplexer) (count : Nat)
    (result : EStateM.Result Halt Multiplexer Unit) : Prop :=
  ∃ last halt after, Strides deadline mux count last ∧
    step deadline last = .error halt after ∧ result = .error halt after

/-- Steps that are made one after the other end in this way, unless the work is cancelled. -/
theorem exists_endsShort_stepOn (uncancelled : (leftBy (stepOn deadline mux)).cancelled = false) :
    ∃ count, EndsShort deadline mux count (stepOn deadline mux) := by
  fun_induction stepOn deadline mux with
  | case1 mux cancelled => cases cancelled.symm.trans uncancelled
  | case2 mux going halt after given => exact ⟨0, mux, halt, after, .none, given, rfl⟩
  | case3 mux going after given stopped => cases stopped.symm.trans uncancelled
  | case4 mux going middle given goingThen inductionHypothesis =>
    obtain ⟨count, last, halt, after, strides, short, same⟩ := inductionHypothesis uncancelled
    exact ⟨count + 1, last, halt, after, .step given (by simpa using goingThen) strides, short, same⟩

/-! ## Closed lines -/

/-- Each step puts off by as much the time by which everything has come. -/
theorem Strides.within (strides : Strides deadline mux count last)
    (within : Within timeout longest bound mux) :
    Within timeout longest (bound + count * (longest + timeout)) last := by
  induction strides generalizing bound with
  | none => simpa using within
  | @step mux after last count ended going later inductionHypothesis =>
    have outcome : outcomeOf (Multiplexer.step deadline mux) = .ok () := by rw [ended]; rfl
    have behind := (within_step timeout longest bound deadline).of_outcome within outcome
    rw [ended] at behind
    have whole := inductionHypothesis behind
    rwa [Nat.add_assoc, Nat.add_assoc, ← Nat.add_assoc longest, Nat.add_comm (longest + timeout),
      ← Nat.succ_mul] at whole

/-- Closed lines end by some time. -/
theorem exists_within (closed : ∀ port, (mux.lines.get port).closed = true) :
    ∃ longest bound, Within mux.routing.responseTimeout longest bound mux := by
  have among (port : Port) : port ∈ Port.all := by cases port <;> decide
  obtain ⟨longest, least⟩ := Finset.exists_le
    (Port.all.flatMap fun port => (mux.lines.get port).answers.flatten.map (·.delay)).toFinset
  obtain ⟨latest, early⟩ := Finset.exists_le (mux.now ::
    ((Port.all.flatMap fun port => (mux.lines.get port).dueTimes) ++ mux.cancelAt.toList)).toFinset
  simp only [List.mem_toFinset, List.mem_cons, List.mem_append, List.mem_flatMap, Option.mem_toList]
    at least early
  refine ⟨longest, latest + longest, ⟨rfl, fun port => ⟨closed port, ?_, ?_⟩, ?_⟩, ?_⟩
  · intro due waiting
    exact (early due (.inr (.inl ⟨port, among port, waiting⟩))).trans (Nat.le_add_right ..)
  · intro answer prepared delivery delivered
    have put : delivery ∈ (mux.lines.get port).answers.flatten :=
      List.mem_flatten.2 ⟨answer, prepared, delivered⟩
    exact least delivery.delay ⟨port, among port, List.mem_map_of_mem put⟩
  · intro time alarm
    exact (early time (.inr (.inr alarm))).trans (Nat.le_add_right ..)
  · exact Nat.add_le_add_right (early mux.now (.inl rfl)) longest

/-- A run on closed lines that is not cancelled fails, if its caller waits long enough. -/
theorem exists_enough (closed : ∀ port, (mux.lines.get port).closed = true)
    (yields : mux.YieldsAtMost bound) : ∃ enough, ∀ deadline, enough ≤ deadline →
      (leftBy (run deadline mux)).cancelled = false →
        ∃ error, outcomeOf (run deadline mux) = .error (.failed error) := by
  obtain ⟨longest, first, within⟩ := exists_within closed
  let timeout := mux.routing.responseTimeout
  refine ⟨first + bound * (longest + timeout) + timeout, fun deadline enough uncancelled => ?_⟩
  have same : run deadline mux = stepOn deadline (mux.atTime mux.now) := rfl
  rw [same] at uncancelled ⊢
  obtain ⟨count, last, halt, after, strides, short, result⟩ := exists_endsShort_stepOn uncancelled
  have few : count ≤ bound := strides.count_le yields
  have started : Within timeout longest first (mux.atTime mux.now) :=
    ⟨within.atTime mux.now, within.early⟩
  have inTime : first + count * (longest + timeout) + timeout ≤ deadline := by
    have less := Nat.mul_le_mul_right (longest + timeout) few
    omega
  have going := step_unabandoned (strides.within started) inTime
  rw [short] at going
  rw [result]
  cases halt with
  | failed error => exact ⟨error, rfl⟩
  | abandoned => exact absurd rfl going

/-! ## Progress -/

/-- Work that no one cancels. -/
def Uncancelled (mux : Multiplexer) : Prop :=
  mux.cancelled = false ∧ mux.cancelAt = none

/-- Work that no one cancels is not cancelled by what is done with frames. -/
theorem uncancelled_upkept : Upkept (fun _ => True) Uncancelled where
  reports := fun _ _ => trivial
  taking := fun _ _ _ _ uncancelled => uncancelled
  telling := fun _ _ _ uncancelled => uncancelled
  deafening := fun _ _ uncancelled => uncancelled

/-- Nor is it by the passage of time. -/
theorem Uncancelled.atTime (uncancelled : mux.Uncancelled) (time : Nat) :
    (mux.atTime time).Uncancelled := by
  obtain ⟨going, none⟩ := uncancelled
  simp [Uncancelled, Multiplexer.atTime, going, none]

/-- Work that no one cancels is not cancelled by any step. -/
theorem uncancelled_steady : Steady Uncancelled where
  maintained := ⟨fun _ _ => rfl, uncancelled_upkept.taking, fun _ _ _ uncancelled => uncancelled⟩
  passing := fun time _ uncancelled => uncancelled.atTime time
  sending := fun _ _ _ => uncancelled_upkept.send (fun _ uncancelled => uncancelled)
    (fun _ => trivial) fun _ => trivial
  deafening := uncancelled_upkept.deafening

/-- Work that no one cancels is not cancelled by any run. -/
theorem cancelled_run (uncancelled : mux.Uncancelled) (deadline : Nat) :
    (leftBy (run deadline mux)).cancelled = false :=
  ((uncancelled_steady.step deadline).stepOn.left (uncancelled.atTime mux.now)).1

/-- How steps and runs get on from a state. -/
structure MakesProgress (mux : Multiplexer) : Prop where
  /-- A step that comes to its end has taken one frame to deal with, unless it has been cancelled. -/
  step : ∀ deadline, outcomeOf (step deadline mux) = .ok () → Success deadline mux
  /-- The lines give no more frames than there are in the bytes that are ahead of them and in the answers
  that are prepared. -/
  prospect : mux.YieldsAtMost mux.prospect
  /-- A run that is not cancelled does not come to its end. It makes no more steps that do than the lines can
  give frames. -/
  run : ∀ deadline bound, mux.YieldsAtMost bound → (leftBy (run deadline mux)).cancelled = false →
    ∃ count ≤ bound, EndsShort deadline (mux.atTime mux.now) count (run deadline mux)
  /-- A run is not cancelled if no one cancels it. -/
  uncancelled : mux.Uncancelled → ∀ deadline,
    (leftBy (Multiplexer.run deadline mux)).cancelled = false
  /-- A run on closed lines that is not cancelled fails, if its caller waits long enough. -/
  closed : (∀ port, (mux.lines.get port).closed = true) → ∃ enough, ∀ deadline, enough ≤ deadline →
    (leftBy (Multiplexer.run deadline mux)).cancelled = false →
      ∃ error, outcomeOf (Multiplexer.run deadline mux) = .error (.failed error)

/-- Steps and runs get on from every state that is reached. -/
theorem progress_is_made (reached : Reached routing mux) : MakesProgress mux where
  step := fun _ ended => success_of_step ended
  prospect := yieldsAtMost_prospect reached.sound.strict
  run := by
    intro deadline bound yields uncancelled
    have same : Multiplexer.run deadline mux = stepOn deadline (mux.atTime mux.now) := rfl
    rw [same] at uncancelled ⊢
    obtain ⟨count, short⟩ := exists_endsShort_stepOn uncancelled
    have ⟨_, _, _, strides, _⟩ := short
    have few : (mux.atTime mux.now).YieldsAtMost bound := yields
    exact ⟨count, strides.count_le few, short⟩
  uncancelled := cancelled_run
  closed := fun closed => exists_enough closed (yieldsAtMost_prospect reached.sound.strict)

/-- Two resets of the link that are acknowledged, on ports that end behind them. -/
def twoResets : List Happening :=
  [.feed .externalMaster ⟨0, .bytes [0x10, 0x40, 0x5A, 0x9A, 0x16]⟩,
    .feed .localMaster ⟨3, .bytes [0x10, 0x40, 0xFD, 0x3D, 0x16]⟩,
    .close .externalMaster, .close .slave, .close .localMaster]

/-- Both are taken, and then all ports have ended. -/
theorem progress_is_made_to_the_end :
    let mux := (fresh .standard).behind twoResets
    let after := leftBy (run 3600000 mux)
    MakesProgress mux ∧ (∀ port ∈ Port.all, (mux.lines.get port).closed = true) ∧
      mux.prospect = 2 ∧ after.received = 2 ∧ after.cancelled = false ∧
      outcomeOf (run 3600000 mux) = .error (.failed .allPortsClosed) := by
  intro mux after
  have reached : Reached .standard mux := Reached.fresh.behind twoResets
  refine ⟨progress_is_made reached, ?_⟩
  decide +kernel

end Multiplexer

end MeterBus
