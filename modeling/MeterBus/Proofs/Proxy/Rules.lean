import MeterBus.Proofs.Proxy.Replies

/-!
# What is done with a frame of a master

A step that takes a frame of a master does one of four things with it. `Routing.Calls` is the table that
says which: it is put in terms of the frame and the addresses alone, whatever these are and whether or
not they coincide. `Responds` says what each of them does to the lines and to the counters, and what the
step comes to. No two of them can be mistaken for each other, so that the table can be read off what a
step does.
-/

namespace MeterBus

/-- What a step may do with a frame of a master. -/
inductive Response where
  /-- The master is answered for the slave. -/
  | acknowledge
  /-- The slave is asked. -/
  | forward
  /-- The frame is for another slave. -/
  | ignore
  /-- The frame has no place in the protocol. -/
  | reject
  deriving DecidableEq, Repr

/-- What a decision asks to be done. -/
def Decision.response : Decision → Response
  | .acknowledge | .acknowledgeSelection => .acknowledge
  | .forward _ => .forward
  | .ignore => .ignore
  | .reject => .reject

namespace Routing

/-- The frames of the masters that are acknowledged: resets of the link, and the selection of the slave
by its secondary address, whatever the frame count bit of that is. -/
inductive Acknowledges (routing : Routing) : Port → Frame → Prop where
  | reset {address : UInt8} (known : address = 0xFF ∨ address = routing.slaveAddress) :
      Acknowledges routing .externalMaster (.short 0x40 address)
  | localReset {address : UInt8} (known : address = 0x00 ∨ address = routing.localAddress) :
      Acknowledges routing .localMaster (.short 0x40 address)
  | selection {control information : UInt8} (select : control = 0x53 ∨ control = 0x73) :
      Acknowledges routing .localMaster
        (.long control routing.localAddress information routing.localSelectData)

/-- The frames of the masters that speak of the slave, with the requests that they stand for. -/
inductive Requests (routing : Routing) : Port → Frame → Frame → Prop where
  | unchanged {frame : Frame} (addressed : frame.address? = some routing.slaveAddress) :
      Requests routing .externalMaster frame frame
  | rewritten {control : UInt8} :
      Requests routing .localMaster (.short control routing.localAddress)
        (.short control routing.slaveAddress)

/-- What the frames of the masters call for. -/
inductive Calls (routing : Routing) (frame : Frame) : Port → Response → Prop where
  | acknowledge {master : Port} (acknowledged : routing.Acknowledges master frame) :
      Calls routing frame master .acknowledge
  | forward {master : Port} {request : Frame} (other : ¬ routing.Acknowledges master frame)
      (requested : routing.Requests master frame request) : Calls routing frame master .forward
  | ignore (other : ¬ routing.Acknowledges .externalMaster frame)
      (unrequested : ∀ request, ¬ routing.Requests .externalMaster frame request)
      (addressed : frame.address? ≠ none) : Calls routing frame .externalMaster .ignore
  | reject (single : frame = .single) : Calls routing frame .externalMaster .reject
  | localReject (other : ¬ routing.Acknowledges .localMaster frame)
      (unrequested : ∀ request, ¬ routing.Requests .localMaster frame request) :
      Calls routing frame .localMaster .reject

variable {routing : Routing} {frame request : Frame} {master : Port} {response : Response}

/-- A single character is not acknowledged. -/
theorem not_acknowledges_single : ¬ routing.Acknowledges master .single := nofun

/-- A single character stands for no request. -/
theorem not_requests_single : ¬ routing.Requests master .single request := by
  intro requested
  cases requested with
  | unchanged addressed => cases addressed

/-- A frame calls for one response at most. -/
theorem Calls.unique {other : Response} (calls : routing.Calls frame master response)
    (callsToo : routing.Calls frame master other) : response = other := by
  cases calls with
  | acknowledge acknowledged =>
    cases callsToo with
    | acknowledge => rfl
    | forward unacknowledged => exact absurd acknowledged unacknowledged
    | ignore unacknowledged => exact absurd acknowledged unacknowledged
    | reject single => exact absurd (single ▸ acknowledged) not_acknowledges_single
    | localReject unacknowledged => exact absurd acknowledged unacknowledged
  | forward unacknowledged requested =>
    cases callsToo with
    | acknowledge acknowledged => exact absurd acknowledged unacknowledged
    | forward => rfl
    | ignore _ unrequested => exact absurd requested (unrequested _)
    | reject single => exact absurd (single ▸ requested) not_requests_single
    | localReject _ unrequested => exact absurd requested (unrequested _)
  | ignore unacknowledged unrequested addressed =>
    cases callsToo with
    | acknowledge acknowledged => exact absurd acknowledged unacknowledged
    | forward _ requested => exact absurd requested (unrequested _)
    | ignore => rfl
    | reject single => exact absurd (single ▸ rfl) addressed
  | reject single =>
    subst single
    cases callsToo with
    | acknowledge acknowledged => exact absurd acknowledged not_acknowledges_single
    | forward _ requested => exact absurd requested not_requests_single
    | ignore _ _ addressed => exact absurd rfl addressed
    | reject => rfl
  | localReject unacknowledged unrequested =>
    cases callsToo with
    | acknowledge acknowledged => exact absurd acknowledged unacknowledged
    | forward _ requested => exact absurd requested (unrequested _)
    | localReject => rfl

/-- Two control bytes have the function code that sends data. -/
theorem isFunction_sndUd_iff (control : UInt8) :
    ControlField.isFunction control ControlField.sndUd ↔ control = 0x53 ∨ control = 0x73 := by
  have all : ∀ value : Fin 256, ControlField.isFunction (.ofFin value) ControlField.sndUd
      ↔ UInt8.ofFin value = 0x53 ∨ UInt8.ofFin value = 0x73 := by
    decide +kernel
  exact all control.toFin

/-- A frame of the external master calls for what is decided about it. -/
theorem calls_ofExternal (routing : Routing) (frame : Frame) :
    routing.Calls frame .externalMaster (routing.ofExternal frame).response := by
  unfold ofExternal
  split
  · next unaddressed =>
    cases frame with
    | single => exact .reject rfl
    | short | control | long => cases unaddressed
  · next address addressed =>
    split
    · next acknowledged =>
      obtain ⟨rfl, known⟩ := acknowledged
      exact .acknowledge (.reset known)
    · next unacknowledged =>
      have other : ¬ routing.Acknowledges .externalMaster frame := by
        intro acknowledged
        cases acknowledged with
        | reset known =>
          cases addressed
          exact unacknowledged ⟨rfl, known⟩
      split
      · next forSlave => exact .forward other (.unchanged (forSlave ▸ addressed))
      · next forAnother =>
        refine .ignore other ?_ (addressed ▸ Option.some_ne_none address)
        intro request requested
        cases requested with
        | unchanged addressedToo => exact forAnother (Option.some.inj (addressed.symm.trans addressedToo))

/-- A frame of the local master calls for what is decided about it. -/
theorem calls_ofLocal (routing : Routing) (frame : Frame) :
    routing.Calls frame .localMaster (routing.ofLocal frame).response := by
  unfold ofLocal
  split
  · next control address =>
    split
    · next acknowledged =>
      obtain ⟨rfl, known⟩ := acknowledged
      exact .acknowledge (.localReset known)
    · next unacknowledged =>
      have other : ¬ routing.Acknowledges .localMaster (.short control address) := by
        intro acknowledged
        cases acknowledged with
        | localReset known => exact unacknowledged ⟨rfl, known⟩
      split
      · next forSlave =>
        subst forSlave
        exact .forward other .rewritten
      · next forAnother =>
        refine .localReject other ?_
        intro request requested
        cases requested with
        | rewritten => exact forAnother rfl
  · next control address information data =>
    split
    · next acknowledged =>
      obtain ⟨select, rfl, rfl⟩ := acknowledged
      exact .acknowledge (.selection ((isFunction_sndUd_iff control).1 select))
    · next unacknowledged =>
      refine .localReject ?_ nofun
      intro acknowledged
      cases acknowledged with
      | selection select =>
        exact unacknowledged ⟨(isFunction_sndUd_iff control).2 select, rfl, rfl⟩
  · next neither notLong =>
    refine .localReject ?_ ?_
    · intro acknowledged
      cases acknowledged with
      | localReset => exact neither _ _ rfl
      | selection => exact notLong _ _ _ _ rfl
    · intro request requested
      cases requested with
      | rewritten => exact neither _ _ rfl

/-- A frame of a master calls for what is decided about it. -/
theorem calls_iff (known : master ≠ .slave) :
    routing.Calls frame master response ↔ (routing.decide master frame).response = response := by
  have calls : routing.Calls frame master (routing.decide master frame).response := by
    cases master with
    | externalMaster => exact calls_ofExternal routing frame
    | localMaster => exact calls_ofLocal routing frame
    | slave => exact absurd rfl known
  constructor
  · exact calls.unique
  · rintro rfl
    exact calls

/-- What a frame stands for that is not acknowledged is forwarded. -/
theorem decide_of_requests (unacknowledged : ¬ routing.Acknowledges master frame)
    (requested : routing.Requests master frame request) :
    routing.decide master frame = .forward request := by
  cases requested with
  | unchanged addressed =>
    have other : frame ≠ .short ControlField.sndNke routing.slaveAddress := by
      rintro rfl
      exact unacknowledged (.reset (.inr rfl))
    simp [decide, ofExternal, addressed, other]
  | @rewritten control =>
    have other : control ≠ ControlField.sndNke := by
      rintro rfl
      exact unacknowledged (.localReset (.inr rfl))
    simp [decide, ofLocal, other]

end Routing

namespace Multiplexer

/-! ## What a step does -/

variable {mux before middle after : Multiplexer} {deadline : Nat} {master : Port}
  {frame request : Frame} {response : Response} {contacts : Contacts} {tale : List Activity}
  {raised raisedThen : List Counter}

/-- Whether the counters go up between two states by one for each of these, and no others do. -/
def Raises (before after : Multiplexer) (raised : List Counter) : Prop :=
  ∀ counter, (Metrics.ofTrace after.trace).count counter
    = (Metrics.ofTrace before.trace).count counter + raised.count counter

/-- Between two states the counters go up by what the tale counts. -/
theorem raises_of_passage (passage : Passage before contacts tale after) :
    Raises before after (tale.filterMap Activity.counter?) := by
  intro counter
  rw [count_of_passage passage, Counter.tally, List.count, List.countP_filterMap]
  congr 2
  funext activity
  cases activity.counter? with
  | none => rfl
  | some counted =>
    simp only [Option.some.injEq]
    rfl

/-- Counters go on from where they were. -/
theorem Raises.trans (first : Raises before middle raised) (second : Raises middle after raisedThen) :
    Raises before after (raised ++ raisedThen) := by
  intro counter
  rw [second counter, first counter, List.count_append, Nat.add_assoc]

/-- What each response of a step to a frame of a master does to the lines, from the state in which the
frame was taken, and to the counters. -/
inductive Responds (deadline : Nat) (master : Port) (mux : Multiplexer) : Response → Prop where
  /-- A single character is written to the master, and nothing is done to the other lines. -/
  | acknowledge {bytes : List UInt8} {tale : List Activity}
      (comes : outcomeOf (step deadline mux) = .ok ())
      (passage : Passage (leftBy (select deadline mux))
        (.on master [.write (leftBy (select deadline mux)).now .single (.ok bytes)]) tale
        (leftBy (step deadline mux)))
      (raised : Raises mux (leftBy (step deadline mux))
        [master.receivedCounter, master.sentCounter, .localAcks]) :
      Responds deadline master mux .acknowledge
  /-- An exchange with the slave is run. -/
  | forward {request : Frame} (run : step deadline mux
      = exchange deadline master request (leftBy (select deadline mux))) :
      Responds deadline master mux .forward
  /-- Nothing is written, and nothing is counted but that a frame was taken. -/
  | ignore {tale : List Activity} (comes : outcomeOf (step deadline mux) = .ok ())
      (passage : Passage (leftBy (select deadline mux)) [] tale (leftBy (step deadline mux)))
      (raised : Raises mux (leftBy (step deadline mux)) [master.receivedCounter]) :
      Responds deadline master mux .ignore
  /-- Nothing is written, and the frame is counted as one without a place in the protocol. -/
  | reject {tale : List Activity} (comes : outcomeOf (step deadline mux) = .ok ())
      (passage : Passage (leftBy (select deadline mux)) [] tale (leftBy (step deadline mux)))
      (raised : Raises mux (leftBy (step deadline mux))
        [master.receivedCounter, master.unexpectedCounter]) :
      Responds deadline master mux .reject

/-- Taking a frame counts it, and nothing else. -/
theorem select_raises (selected : outcomeOf (select deadline mux) = .ok (some (master, frame))) :
    Raises mux (leftBy (select deadline mux)) [master.receivedCounter] := by
  obtain ⟨contacts, tale, selection, passage⟩ := select_follows deadline mux
  rw [selected] at selection
  have raised := raises_of_passage passage
  cases selection with
  | taken idling =>
    have uncounted := List.filterMap_eq_nil_iff.2 idling.uncounted
    rw [List.filterMap_append, uncounted] at raised
    exact raised

/-- Whether a call does not come to its end because a port could not be read or written. -/
def IsPortFailure (outcome : Except Halt Unit) : Prop :=
  ∃ port cause, outcome = .error (.failed (.read port cause)) ∨
    outcome = .error (.failed (.write port cause))

/-- What is decided about a frame is done. -/
theorem responds_decided (selected : outcomeOf (select deadline mux) = .ok (some (master, frame)))
    (unfailing : ¬ IsPortFailure (outcomeOf (step deadline mux))) :
    Responds deadline master mux (mux.routing.decide master frame).response := by
  obtain ⟨_, _, _, choosing⟩ := select_follows deadline mux
  have taken := select_raises selected
  have whole := step_eq_carryOut selected
  rw [choosing.routing] at whole
  have follows := carryOut_follows deadline master frame (mux.routing.decide master frame)
    (leftBy (select deadline mux))
  rw [← whole] at follows
  obtain ⟨contacts, tale, treatment, passage⟩ := follows
  have raised := taken.trans (raises_of_passage passage)
  generalize mux.routing.decide master frame = decision at whole treatment
  generalize comes : outcomeOf (step deadline mux) = outcome at unfailing treatment
  cases treatment with
  | acknowledged handover =>
    cases handover with
    | written => exact .acknowledge comes passage raised
    | unwritten => exact absurd ⟨_, _, .inr rfl⟩ unfailing
  | selected handover =>
    cases handover with
    | written => exact .acknowledge comes passage raised
    | unwritten => exact absurd ⟨_, _, .inr rfl⟩ unfailing
  | forwarded => exact .forward whole
  | ignored => exact .ignore comes passage raised
  | rejected => exact .reject comes passage raised

/-! ## What a step shows -/

/-- The number by which a counter goes up between two states. -/
def rise (before after : Multiplexer) (counter : Counter) : Nat :=
  (Metrics.ofTrace after.trace).count counter - (Metrics.ofTrace before.trace).count counter

/-- The response that a step shows in three counters and in what it comes to. -/
def shown (deadline : Nat) (master : Port) (mux : Multiplexer) : Response :=
  let rise := rise mux (leftBy (step deadline mux))
  if outcomeOf (step deadline mux) ≠ .ok () ∨ 0 < rise Port.slave.sentCounter then .forward
  else if 0 < rise .localAcks then .acknowledge
  else if 0 < rise master.unexpectedCounter then .reject
  else .ignore

theorem Raises.rise_eq (raises : Raises before after raised) (counter : Counter) :
    rise before after counter = raised.count counter := by
  rw [rise, raises counter, Nat.add_sub_cancel_left]

/-- An exchange that comes to its end has written a request. -/
theorem Exchange.sent {timeout now : Nat}
    (exchange : Exchange timeout deadline now master request contacts tale (.ok ())) :
    0 < Port.slave.sentCounter.tally tale := by
  cases exchange with
  | asked check handover answering =>
    cases handover with
    | written =>
      rw [Counter.tally_append, Counter.tally_append]
      simp [Activity.counter?]

/-- Every response is shown. -/
theorem Responds.shown_eq (known : master ≠ .slave) (responds : Responds deadline master mux response) :
    shown deadline master mux = response := by
  unfold shown
  cases responds with
  | acknowledge comes passage raised => simp [comes, raised.rise_eq, Ne.symm known]
  | @forward request run =>
    by_cases comes : outcomeOf (step deadline mux) = .ok ()
    · obtain ⟨_, _, _, choosing⟩ := select_follows deadline mux
      obtain ⟨_, _, exchange, passage⟩ :=
        exchange_follows deadline master request (leftBy (select deadline mux))
      rw [← run] at exchange passage
      rw [comes] at exchange
      have asked := exchange.sent
      have sent : 0 < rise mux (leftBy (step deadline mux)) Port.slave.sentCounter := by
        rw [rise, count_of_passage (choosing.trans passage), Counter.tally_append]
        omega
      exact if_pos (.inr sent)
    · exact if_pos (.inl comes)
  | ignore comes passage raised => simp [comes, raised.rise_eq]
  | reject comes passage raised => simp [comes, raised.rise_eq]

/-- Whatever the addresses are that a multiplexer works with, a step that takes a frame of a master does
one thing with it, if no port fails to be read or written: it does what the table calls for. What is
forwarded is the request that the frame stands for. -/
theorem response_is_unique (known : master ≠ .slave)
    (selected : outcomeOf (select deadline mux) = .ok (some (master, frame)))
    (unfailing : ¬ IsPortFailure (outcomeOf (step deadline mux))) :
    (∃! response, Responds deadline master mux response) ∧
    (∀ response, Responds deadline master mux response ↔ mux.routing.Calls frame master response) ∧
    ∀ request, ¬ mux.routing.Acknowledges master frame → mux.routing.Requests master frame request →
      step deadline mux = exchange deadline master request (leftBy (select deadline mux)) := by
  have responds := responds_decided selected unfailing
  have unique {response : Response} (other : Responds deadline master mux response) :
      response = (mux.routing.decide master frame).response :=
    (other.shown_eq known).symm.trans (responds.shown_eq known)
  refine ⟨⟨_, responds, fun _ other => unique other⟩, ?_, ?_⟩
  · intro response
    rw [Routing.calls_iff known]
    constructor
    · exact fun other => (unique other).symm
    · rintro rfl
      exact responds
  · intro request unacknowledged requested
    obtain ⟨_, _, _, choosing⟩ := select_follows deadline mux
    rw [step_eq_carryOut selected, choosing.routing,
      Routing.decide_of_requests unacknowledged requested]
    rfl

/-- A reset of the link that the external master sends to all slaves is acknowledged once, and not
forwarded, though the slave itself has the address that it is sent to. -/
theorem response_is_unique_for_broadcast_slave :
    let routing := { Routing.standard with slaveAddress := 0xFF }
    let mux := (fresh routing).behind [.feed .externalMaster ⟨0, .bytes [0x10, 0x40, 0xFF, 0x3F, 0x16]⟩]
    (∃! response, Responds 1000 .externalMaster mux response) ∧
      Responds 1000 .externalMaster mux .acknowledge := by
  intro routing mux
  have selected : outcomeOf (select 1000 mux) = .ok (some (.externalMaster, .short 0x40 0xFF)) := by
    decide +kernel
  have comes : outcomeOf (step 1000 mux) = .ok () := by
    decide +kernel
  have unfailing : ¬ IsPortFailure (outcomeOf (step 1000 mux)) := by
    rw [comes]
    simp [IsPortFailure]
  obtain ⟨unique, called, _⟩ := response_is_unique (by decide) selected unfailing
  exact ⟨unique, (called .acknowledge).2 (.acknowledge (.reset (.inl rfl)))⟩

end Multiplexer

end MeterBus
