import MeterBus.Proofs.Proxy.Conservation
import MeterBus.Proofs.Proxy.Upkeep

/-!
# Cancellation

The work may be cancelled at any instant, also while it is waited for something. From that instant on
nothing is taken up: no frame is taken off a master, and no request is written to the slave, even if a
frame comes at that very instant. What was taken up before is brought to its end, and an exchange with the
slave goes on as if nothing had been cancelled. `Heeds` is the invariant of a run for the first of these,
and `Heedless` relates two runs for the second.
-/

namespace MeterBus

/-- Whether an activity takes something up: it takes a frame off a master, or asks the slave. -/
def Activity.TakesUp : Activity → Prop
  | .received port _ => port ≠ .slave
  | .forwarding .. => True
  | .relieved port _ | .sent port .. => port = .slave
  | _ => False

namespace Multiplexer

variable {start mux before after : Multiplexer} {port origin : Port} {frame request : Frame}

/-- Whether the work is cancelled at a time, if no one cancels it otherwise. -/
def isCancelledAt (time : Nat) (mux : Multiplexer) : Bool :=
  mux.cancelled || mux.cancelAt.any (· ≤ time)

/-! ## Nothing is taken up -/

/-- How a state comes from another one at which the work may have been cancelled in between. -/
structure Heeds (start mux : Multiplexer) : Prop where
  /-- Nothing was taken up at a time at which the work was cancelled. -/
  told : ∃ entries, mux.trace = entries ++ start.trace ∧
    ∀ entry ∈ entries, entry.activity.TakesUp → start.isCancelledAt entry.time = false
  /-- A cancellation that has not taken effect is still to come when it was. -/
  token : mux.cancelled = false → start.cancelled = false ∧ mux.cancelAt = start.cancelAt

/-- Whether the work has not been cancelled at that either. -/
structure Goes (start mux : Multiplexer) : Prop where
  heeds : Heeds start mux
  uncancelled : start.isCancelledAt mux.now = false

/-- Nothing has happened. -/
theorem Heeds.refl (mux : Multiplexer) : Heeds mux mux where
  told := ⟨[], rfl, by simp⟩
  token := fun uncancelled => ⟨uncancelled, rfl⟩

/-- Something is told that may be. -/
theorem Heeds.note {activity : Activity} (heeds : Heeds start mux)
    (allowed : activity.TakesUp → start.isCancelledAt mux.now = false) :
    Heeds start (mux.note activity) where
  told := by
    obtain ⟨entries, told, timely⟩ := heeds.told
    refine ⟨⟨mux.now, activity⟩ :: entries, congrArg (_ :: ·) told, ?_⟩
    intro entry among
    rcases List.mem_cons.1 among with rfl | among
    · exact allowed
    · exact timely entry among
  token := heeds.token

/-- The time is another one. -/
theorem Heeds.atTime (heeds : Heeds start mux) (time : Nat) : Heeds start (mux.atTime time) where
  told := heeds.told
  token := by
    intro going
    obtain ⟨uncancelled, undue⟩ := Bool.or_eq_false_iff.1 going
    obtain ⟨startUncancelled, same⟩ := heeds.token uncancelled
    refine ⟨startUncancelled, ?_⟩
    change (if mux.cancelAt.any (· ≤ time) then none else mux.cancelAt) = start.cancelAt
    rw [undue]
    exact same

/-- Where the cancellation has not taken effect, it has not come. -/
theorem Heeds.goes_atTime {time : Nat} (heeds : Heeds start mux)
    (going : (mux.atTime time).cancelled = false) : Goes start (mux.atTime time) where
  heeds := heeds.atTime time
  uncancelled := by
    obtain ⟨uncancelled, undue⟩ := Bool.or_eq_false_iff.1 going
    obtain ⟨startUncancelled, same⟩ := heeds.token uncancelled
    change (start.cancelled || start.cancelAt.any (· ≤ time)) = false
    rw [startUncancelled, ← same, undue]
    rfl

/-- Time passes. -/
theorem heeds_advanceTo (start : Multiplexer) (time : Nat) : Keeps (Heeds start) (advanceTo time) :=
  fun _ heeds => heeds.atTime time

/-- What takes nothing up can be told at any time. -/
theorem heeds_upkept (start : Multiplexer) :
    Upkept (fun activity => ¬ activity.TakesUp) (Heeds start) where
  reports := fun _ _ => id
  taking := fun _ _ _ _ heeds => ⟨heeds.told, heeds.token⟩
  deafening := fun _ _ heeds => ⟨heeds.told, heeds.token⟩
  telling := fun _ _ harmless heeds => heeds.note fun takesUp => absurd takesUp harmless

/-- Before the cancellation, everything can be told. -/
theorem goes_upkept (start : Multiplexer) : Upkept (fun _ => True) (Goes start) where
  reports := fun _ _ => trivial
  taking := fun _ _ _ _ goes => ⟨⟨goes.heeds.told, goes.heeds.token⟩, goes.uncancelled⟩
  deafening := fun _ _ goes => ⟨⟨goes.heeds.told, goes.heeds.token⟩, goes.uncancelled⟩
  telling := fun _ _ _ goes => ⟨goes.heeds.note fun _ => goes.uncancelled, goes.uncancelled⟩

/-- A frame is found only before the cancellation. -/
theorem heeds_takeAt (start : Multiplexer) (deadline : Nat) (instants : List Nat) :
    Ensures (Heeds start) (takeAt deadline instants)
      (fun taken mux => Heeds start mux ∧ (taken ≠ none → Goes start mux)) (Heeds start) := by
  induction instants with
  | nil => exact fun mux heeds => heeds.atTime deadline
  | cons instant later inductionHypothesis =>
    rw [takeAt]
    have advancing : Ensures (Heeds start) (advanceTo instant)
        (fun _ mux => Heeds start mux ∧ (mux.cancelled = false → Goes start mux)) (Heeds start) :=
      fun _ heeds => ⟨heeds.atTime instant, heeds.goes_atTime⟩
    apply advancing.bind
    intro _
    apply Ensures.get_bind
    intro state
    -- at every instant the cancellation is looked at before any port
    split
    · apply (((heeds_upkept start).report id).of_stronger fun _ here => here.2.1).bind
      exact fun _ => .pure none fun _ heeds => ⟨heeds, by simp⟩
    · next going =>
      apply ((((goes_upkept start).takeFirst? tellsTakings_true precedence).halting
        fun _ => Goes.heeds).of_stronger ?_).bind
      · intro found
        cases found with
        | some taken => exact .pure _ fun _ goes => ⟨goes.heeds, fun _ => goes⟩
        | none =>
          apply Ensures.get_bind
          intro state
          split
          · exact inductionHypothesis.of_stronger fun _ here => here.2.heeds
          · exact .halt _ fun _ here => here.2.heeds
      · rintro mux ⟨rfl, _, goes⟩
        exact goes (by simpa using going)

/-- A frame is selected only before the cancellation. -/
theorem heeds_select (start : Multiplexer) (deadline : Nat) :
    Ensures (Heeds start) (select deadline)
      (fun taken mux => Heeds start mux ∧ (taken ≠ none → Goes start mux)) (Heeds start) := by
  apply Ensures.get_bind
  intro state
  apply ((heeds_advanceTo start state.now).of_stronger fun _ here => here.2).bind
  intro _
  split
  · exact .halt _ fun _ heeds => heeds
  · exact heeds_takeAt start deadline _

/-- Handing a frame to a master takes nothing up. -/
theorem heeds_send (start : Multiplexer) (master : port ≠ .slave) (frame : Frame) :
    Keeps (Heeds start) (send port frame) :=
  (heeds_upkept start).send (fun _ heeds => ⟨heeds.told, heeds.token⟩) (fun _ => master)
    fun _ => master

/-- Answering a master for the slave takes nothing up. -/
theorem heeds_acknowledge (start : Multiplexer) (master : port ≠ .slave) :
    Keeps (Heeds start) (acknowledge port) := by
  apply ((heeds_upkept start).report id).bind
  intro _
  apply (heeds_send start master .single).bind
  exact fun _ => (heeds_upkept start).report id

/-- The slave is asked before the cancellation. What is done behind that takes nothing up. -/
theorem heeds_exchange (start : Multiplexer) (master : origin ≠ .slave) (deadline : Nat)
    (request : Frame) :
    Ensures (Goes start) (exchange deadline origin request) (fun _ => Heeds start) (Heeds start) := by
  have goes := goes_upkept start
  have heeds := heeds_upkept start
  rw [exchange_eq]
  apply ((goes.discardStale tellsTakings_true).halting fun _ => Goes.heeds).bind
  intro _
  apply ((goes.report trivial).halting fun _ => Goes.heeds).bind
  intro _
  have asking : Keeps (Goes start) (send .slave request) := by
    apply goes.send
    · exact fun _ goes => ⟨⟨goes.heeds.told, goes.heeds.token⟩, goes.uncancelled⟩
    · exact fun _ => trivial
    · exact fun _ => trivial
  apply (asking.halting fun _ => Goes.heeds).bind
  intro _
  -- the work may be cancelled while it is waited for the slave
  apply Ensures.of_stronger _ fun _ => Goes.heeds
  apply heeds.answering
  · exact fun time mux heeds => heeds.atTime time
  · exact fun _ => id
  · exact fun _ => ⟨fun master => absurd rfl master, id⟩
  · intro reply _
    apply (heeds_send start master reply).bind
    exact fun _ => heeds.report id
  · exact fun _ heeds => heeds

/-- What is done with a frame that was taken before the cancellation. -/
theorem heeds_handle (start : Multiplexer) (deadline : Nat) (port : Port) (frame : Frame) :
    Ensures (Goes start) (handle deadline port frame) (fun _ => Heeds start) (Heeds start) := by
  intro mux goes
  rw [handle_eq]
  cases decided : mux.routing.decide port frame with
  | acknowledge =>
    exact heeds_acknowledge start (master_of_decide decided (by simp)) mux goes.heeds
  | acknowledgeSelection =>
    apply ((heeds_upkept start).report id).bind _ mux goes.heeds
    exact fun _ => heeds_acknowledge start (master_of_decide decided (by simp))
  | forward request =>
    exact heeds_exchange start (master_of_forward decided) deadline request mux goes
  | ignore => exact (heeds_upkept start).report id mux goes.heeds
  | reject => exact (heeds_upkept start).report id mux goes.heeds

/-- A step takes something up before the cancellation only. -/
theorem heeds_step (start : Multiplexer) (deadline : Nat) :
    Keeps (Heeds start) (step deadline) := by
  rw [step_eq]
  apply (heeds_select start deadline).bind
  intro found
  cases found with
  | none => exact .pure _ fun _ here => here.1
  | some taken =>
    exact (heeds_handle start deadline taken.1 taken.2).of_stronger fun _ here => here.2 (by simp)

/-- A run takes something up before the cancellation only. -/
theorem heeds_run (start : Multiplexer) (deadline : Nat) : Keeps (Heeds start) (run deadline) := by
  apply Ensures.get_bind
  intro state
  apply ((heeds_advanceTo start state.now).of_stronger fun _ here => here.2).bind
  exact fun _ => (heeds_step start deadline).stepOn

/-! ## An exchange goes on -/

/-- The multiplexer without a cancellation of its work. -/
def uncancelled (mux : Multiplexer) : Multiplexer :=
  { mux with cancelled := false, cancelAt := none }

/-- Whether a proceeding does the same with and without a cancellation. -/
def Heedless {α : Type} (proceeding : Proceeding α) : Prop :=
  ∀ mux, outcomeOf (proceeding mux.uncancelled) = outcomeOf (proceeding mux) ∧
    leftBy (proceeding mux.uncancelled) = (leftBy (proceeding mux)).uncancelled

namespace Heedless

variable {α β : Type}

/-- A proceeding goes on where another one ends. -/
theorem bind {first : Proceeding α} {second : α → Proceeding β} (one : Heedless first)
    (two : ∀ value, Heedless (second value)) : Heedless (first >>= second) := by
  intro mux
  obtain ⟨outcome, left⟩ := one mux
  simp only [Bind.bind, EStateM.bind]
  cases result : first mux with
  | ok value after =>
    rw [result] at outcome left
    cases resultThen : first mux.uncancelled with
    | ok valueThen afterThen =>
      rw [resultThen] at outcome left
      cases outcome
      obtain rfl : afterThen = after.uncancelled := left
      exact two value after
    | error halt afterThen =>
      rw [resultThen] at outcome
      cases outcome
  | error halt after =>
    rw [result] at outcome left
    cases resultThen : first mux.uncancelled with
    | ok valueThen afterThen =>
      rw [resultThen] at outcome
      cases outcome
    | error haltThen afterThen =>
      rw [resultThen] at outcome left
      cases outcome
      exact ⟨rfl, left⟩

/-- A proceeding that looks at the state, but not at the cancellation. -/
theorem get_bind {second : Multiplexer → Proceeding α} (rest : ∀ mux, Heedless (second mux))
    (same : ∀ mux, second mux.uncancelled = second mux) : Heedless (get >>= second) := by
  intro mux
  have going := rest mux mux
  change outcomeOf (second mux.uncancelled mux.uncancelled) = _ ∧
    leftBy (second mux.uncancelled mux.uncancelled) = _
  rw [same]
  exact going

theorem halt (halt : Halt) : Heedless (throw halt : Proceeding α) := fun _ => ⟨rfl, rfl⟩

theorem report (activity : Activity) : Heedless (Multiplexer.report activity) :=
  fun _ => ⟨rfl, rfl⟩

end Heedless

/-- The reports of a codec are told without regard to a cancellation. -/
theorem uncancelled_noteCodec (events : List Codec.Event) :
    mux.uncancelled.noteCodec port events = (mux.noteCodec port events).uncancelled := by
  induction events generalizing mux with
  | nil => rfl
  | cons event events inductionHypothesis =>
    exact @inductionHypothesis (mux.note (.codec port event))

/-- A write that relieved a port is told without regard to a cancellation. -/
theorem uncancelled_noteRelief (written : List UInt8) :
    mux.uncancelled.noteRelief port written = (mux.noteRelief port written).uncancelled := by
  unfold noteRelief
  split <;> rfl

/-- Late frames are told without regard to a cancellation. -/
theorem uncancelled_noteStale (frames : List (Frame × List Codec.Event)) :
    mux.uncancelled.noteStale frames = (mux.noteStale frames).uncancelled := by
  induction frames generalizing mux with
  | nil => rfl
  | cons stale frames inductionHypothesis =>
    change noteStale frames ((((mux.uncancelled.noteCodec .slave stale.2).note _).note _).note _) = _
    rw [uncancelled_noteCodec]
    exact @inductionHypothesis ((((mux.noteCodec .slave stale.2).note
      (.received .slave stale.1)).note (.stale stale.1)).note (.unexpected .slave stale.1))

/-- What the slave has ready is dropped in the same way. -/
theorem heedless_discardStale : Heedless discardStale := by
  intro mux
  have checked : mux.uncancelled.checking = mux.checking.uncancelled := by
    change ((mux.setLine .slave mux.ready.line).uncancelled.noteStale mux.ready.frames).noteCodec
      .slave mux.ready.events = _
    rw [uncancelled_noteStale, uncancelled_noteCodec]
    rfl
  have ready : mux.uncancelled.ready = mux.ready := rfl
  rw [discardStale_eq, discardStale_eq, checked, ready]
  cases mux.ready.last <;> exact ⟨rfl, rfl⟩

/-- A frame is handed to a port in the same way. -/
theorem heedless_send (port : Port) (frame : Frame) : Heedless (send port frame) := by
  intro mux
  have offered : mux.uncancelled.offering port frame = (mux.offering port frame).uncancelled := by
    change ((mux.setLine port (mux.offer port frame).line).uncancelled.noteRelief port
      (mux.offer port frame).relieved).noteCodec port (mux.offer port frame).events = _
    rw [uncancelled_noteRelief, uncancelled_noteCodec]
    rfl
  have offer : mux.uncancelled.offer port frame = mux.offer port frame := rfl
  rw [send_eq, send_eq, offered, offer]
  cases (mux.offer port frame).written <;> exact ⟨rfl, rfl⟩

/-- The slave is waited for in the same way. -/
theorem heedless_awaitSlave (limit : Nat) : Heedless (awaitSlave limit) := by
  intro mux
  have waited : mux.uncancelled.awaiting limit = (mux.awaiting limit).uncancelled := by
    unfold awaiting
    rw [← uncancelled_noteCodec]
    rfl
  exact ⟨rfl, waited⟩

/-- The answer of the slave is waited for and relayed in the same way. -/
theorem heedless_answering (deadline : Nat) (origin : Port) :
    Heedless (answering deadline origin) := by
  apply Heedless.get_bind
  · intro state
    apply (heedless_awaitSlave _).bind
    intro polled
    cases polled with
    | pending =>
      dsimp only
      split
      · exact .report _
      · exact .halt _
    | ended => exact .halt _
    | failure cause => exact .halt _
    | frame reply =>
      exact (Heedless.report _).bind fun _ => (Heedless.report _).bind fun _ =>
        (heedless_send origin reply).bind fun _ => .report _
  · exact fun _ => rfl

/-- An exchange goes on in the same way. -/
theorem heedless_exchange (deadline : Nat) (origin : Port) (request : Frame) :
    Heedless (exchange deadline origin request) := by
  rw [exchange_eq]
  exact heedless_discardStale.bind fun _ => (Heedless.report _).bind fun _ =>
    (heedless_send .slave request).bind fun _ => heedless_answering deadline origin

/-! ## A run that ends -/

/-- Whether nothing is changed but what is told, and nothing that counts is told. -/
structure Untouched (before after : Multiplexer) : Prop where
  routing : after.routing = before.routing
  lines : after.lines = before.lines
  listening : after.listening = before.listening
  now : after.now = before.now
  metrics : Metrics.ofTrace after.trace = Metrics.ofTrace before.trace

/-- A run of cancelled work does nothing. -/
theorem run_of_cancelled {deadline : Nat} (cancelled : mux.isCancelledAt mux.now = true) :
    run deadline mux = .ok () (mux.atTime mux.now) := by
  have stopped : (mux.atTime mux.now).cancelled = true := cancelled
  change stepOn deadline (mux.atTime mux.now) = _
  rw [stepOn, if_pos stopped]

/-- A step of cancelled work tells that it is, if some port has not ended. -/
theorem step_of_cancelled {deadline : Nat} (cancelled : mux.isCancelledAt mux.now = true)
    (listening : mux.anyListening = true) :
    step deadline mux = .ok () (((mux.atTime mux.now).atTime mux.now).note .cancelled) := by
  have stopped : ((mux.atTime mux.now).atTime mux.now).cancelled = true := by
    change ((mux.atTime mux.now).cancelled || _) = true
    rw [show (mux.atTime mux.now).cancelled = true from cancelled]
    rfl
  have selected := select_of_listening deadline listening
  rw [takeAt_of_cancelled stopped] at selected
  rw [step_eq]
  simp only [Bind.bind, EStateM.bind, selected]
  rfl

/-- Steps that come to their end have been cancelled, and each of them has come to its end. -/
theorem balanced_stepOn {deadline : Nat} {value : Unit}
    (ended : stepOn deadline mux = .ok value after) :
    after.cancelled = true ∧ ∃ contacts tale spent, Passage mux contacts tale after ∧
      Balanced 0 spent spent tale := by
  fun_induction stepOn deadline mux with
  | case1 mux cancelled =>
    cases ended
    exact ⟨cancelled, [], [], 0, .still rfl rfl rfl, .nil⟩
  | case2 mux going halt middle given => cases ended
  | case3 mux going middle given stopped =>
    cases ended
    obtain ⟨contacts, tale, turn, passage⟩ := step_follows deadline mux
    rw [given] at turn passage
    obtain ⟨spent, balanced⟩ := turn.balanced
    exact ⟨stopped, contacts, tale, spent, passage, balanced⟩
  | case4 mux going middle given goingThen inductionHypothesis =>
    obtain ⟨cancelled, later, more, spentThen, passageThen, balancedThen⟩ := inductionHypothesis ended
    obtain ⟨contacts, tale, turn, passage⟩ := step_follows deadline mux
    rw [given] at turn passage
    obtain ⟨spent, balanced⟩ := turn.balanced
    exact ⟨cancelled, contacts ++ later, tale ++ more, spent + spentThen, passage.trans passageThen,
      balanced.append balancedThen⟩

/-- A run that comes to its end has been cancelled, and every step of it has come to its end. -/
theorem balanced_run {deadline : Nat} (ended : outcomeOf (run deadline mux) = .ok ()) :
    (leftBy (run deadline mux)).cancelled = true ∧ ∃ contacts tale spent,
      Passage mux contacts tale (leftBy (run deadline mux)) ∧ Balanced 0 spent spent tale := by
  cases result : run deadline mux with
  | ok value final =>
    have stepping : stepOn deadline (mux.atTime mux.now) = .ok value final := result
    obtain ⟨cancelled, contacts, tale, spent, passage, balanced⟩ := balanced_stepOn stepping
    exact ⟨cancelled, contacts, tale, spent, (atTime_passage mux.now mux).trans passage, balanced⟩
  | error halt final =>
    rw [result] at ended
    cases ended

/-- An exchange that comes to its end is complete or timed out, and its caller gives it up only
before it would have been. -/
theorem Exchange.concludes {timeout deadline now : Nat} {contacts : Contacts} {tale : List Activity}
    {outcome : Except Halt Unit}
    (exchange : Exchange timeout deadline now origin request contacts tale outcome) :
    (outcome = .ok () → tale.getLast? = some (.relayed origin) ∨
      tale.getLast? = some (.timedOut origin timeout)) ∧
    (outcome = .error .abandoned → deadline < now + timeout) := by
  cases exchange with
  | unchecked check => cases check <;> simp
  | unasked check handover => cases handover; simp
  | asked check handover answering =>
    cases handover with
    | written =>
      cases answering with
      | timedOut inTime => simp
      | abandoned late => simpa using late
      | ended => simp
      | unreadable => simp
      | answered relaying => cases relaying <;> simp

/-- How work ends that may be cancelled at any time from a state on. -/
structure EndsCleanly (deadline : Nat) (mux : Multiplexer) : Prop where
  /-- A run of work that has been cancelled does nothing. -/
  idle : mux.isCancelledAt mux.now = true →
    outcomeOf (run deadline mux) = .ok () ∧ Untouched mux (leftBy (run deadline mux))
  /-- A step of work that has been cancelled does nothing, unless all ports have ended. -/
  idle_step : mux.isCancelledAt mux.now = true → mux.anyListening = true →
    outcomeOf (step deadline mux) = .ok () ∧ Untouched mux (leftBy (step deadline mux))
  /-- From the cancellation on, a run takes no frame off a master and asks the slave for nothing. -/
  heeding : ∃ entries, (leftBy (run deadline mux)).trace = entries ++ mux.trace ∧
    ∀ entry ∈ entries, entry.activity.TakesUp → mux.isCancelledAt entry.time = false
  /-- An exchange comes to the same whenever the work is cancelled. -/
  heedless : ∀ origin request other, other.uncancelled = mux.uncancelled →
    outcomeOf (exchange deadline origin request other)
      = outcomeOf (exchange deadline origin request mux) ∧
    (leftBy (exchange deadline origin request other)).uncancelled
      = (leftBy (exchange deadline origin request mux)).uncancelled
  /-- An exchange that does not fail ends with a reply or with a timeout, unless its caller gives it up
  before the time for a reply is over. -/
  concluding : ∀ origin request, ∃ tale,
    (leftBy (exchange deadline origin request mux)).story = mux.story ++ tale ∧
    (outcomeOf (exchange deadline origin request mux) = .ok () →
      tale.getLast? = some (.relayed origin) ∨
      tale.getLast? = some (.timedOut origin mux.routing.responseTimeout)) ∧
    (outcomeOf (exchange deadline origin request mux) = .error .abandoned →
      deadline < mux.now + mux.routing.responseTimeout)
  /-- A run that comes to its end has been cancelled. -/
  cancelled : outcomeOf (run deadline mux) = .ok () → (leftBy (run deadline mux)).cancelled = true
  /-- In a run that comes to its end, every request that was written to the slave was followed by a reply
  or by a timeout. -/
  balanced : outcomeOf (run deadline mux) = .ok () →
    let count := fun (mux : Multiplexer) counter => (Metrics.ofTrace mux.trace).count counter
    let after := leftBy (run deadline mux)
    ∃ forwarded timeouts,
      count after .framesForwarded = count mux .framesForwarded + forwarded ∧
      count after .responseTimeouts = count mux .responseTimeouts + timeouts ∧
      count after (.framesSent Port.slave.name)
        = count mux (.framesSent Port.slave.name) + (forwarded + timeouts)

/-- Cancelled work ends at a clean point, in every state and whenever it is cancelled. -/
theorem cancellation_is_clean (deadline : Nat) (mux : Multiplexer) : EndsCleanly deadline mux where
  idle := by
    intro cancelled
    rw [run_of_cancelled cancelled]
    exact ⟨rfl, rfl, rfl, rfl, rfl, rfl⟩
  idle_step := by
    intro cancelled listening
    rw [step_of_cancelled cancelled listening]
    exact ⟨rfl, rfl, rfl, rfl, rfl, rfl⟩
  heeding := ((heeds_run mux deadline).left (Heeds.refl mux)).told
  heedless := by
    intro origin request other same
    obtain ⟨outcome, left⟩ := heedless_exchange deadline origin request mux
    obtain ⟨outcomeThen, leftThen⟩ := heedless_exchange deadline origin request other
    rw [same] at outcomeThen leftThen
    exact ⟨outcomeThen.symm.trans outcome, leftThen.symm.trans left⟩
  concluding := by
    intro origin request
    obtain ⟨contacts, tale, course, passage⟩ := exchange_follows deadline origin request mux
    exact ⟨tale, passage.story, course.concludes⟩
  cancelled := fun ended => (balanced_run ended).1
  balanced := by
    intro ended count after
    obtain ⟨_, contacts, tale, spent, passage, balanced⟩ := balanced_run ended
    have counted (counter : Counter) :
        count after counter = count mux counter + counter.tally tale :=
      count_of_passage passage counter
    have settled : Port.slave.sentCounter.tally tale
        = Counter.framesForwarded.tally tale + Counter.responseTimeouts.tally tale :=
      le_antisymm balanced.concluded balanced.requested
    refine ⟨_, _, counted .framesForwarded, counted .responseTimeouts, ?_⟩
    rw [← settled]
    exact counted _

/-- A frame that comes at the instant of the cancellation is not taken. -/
example :
    let mux := ((fresh .standard).feed .externalMaster
      ⟨10, .bytes [0x10, 0x7B, 0x5A, 0xD5, 0x16]⟩).cancelAfter 10
    (leftBy (run 3600000 mux)).story = [.cancelled] := by
  decide +kernel

end Multiplexer

end MeterBus
