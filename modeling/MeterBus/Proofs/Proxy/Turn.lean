import MeterBus.Proofs.Proxy.Selection

/-!
# The course of a step

A step waits until a port gives a frame and deals with it. While it waits, ports have nothing to give
or end; what it does with a frame is decided by the routing rules. `Turn` lists the ways in which
this can go, and `step_follows` says that there are no others.
-/

namespace MeterBus

/-- What is done with a frame of a port. One of the slave answers no request that is still open. -/
def Routing.decide (routing : Routing) (port : Port) (frame : Frame) : Decision :=
  match port with
  | .externalMaster => routing.ofExternal frame
  | .localMaster => routing.ofLocal frame
  | .slave => .reject

namespace Multiplexer

variable {mux : Multiplexer} {port : Port} {frame : Frame}

/-- Every frame of the slave is rejected. -/
theorem master_of_decide {routing : Routing} {decision : Decision}
    (decided : routing.decide port frame = decision) (known : decision ≠ .reject) :
    port ≠ .slave := by
  rintro rfl
  exact known decided.symm

/-- Only frames of masters are forwarded. -/
theorem master_of_forward {routing : Routing} {request : Frame}
    (decided : routing.decide port frame = .forward request) : port ≠ .slave :=
  master_of_decide decided (by simp)

/-! ## Dealing with a frame -/

/-- How dealing with a frame of a port can go once it is decided what to do. -/
inductive Treatment (timeout deadline now : Nat) (port : Port) (frame : Frame) :
    Decision → Contacts → List Activity → Except Halt Unit → Prop where
  /-- The master is answered for the slave, or cannot be. -/
  | acknowledged {contacts tale outcome}
      (handover : Handover (.acknowledging port) port .single [.acknowledged port] now contacts
        tale outcome) :
      Treatment timeout deadline now port frame .acknowledge contacts tale outcome
  /-- The selection of the slave is told, and acknowledged like that. -/
  | selected {contacts tale outcome}
      (handover : Handover (.acknowledging port) port .single [.acknowledged port] now contacts
        tale outcome) :
      Treatment timeout deadline now port frame .acknowledgeSelection contacts (.selected :: tale)
        outcome
  /-- The slave is asked. -/
  | forwarded {request contacts tale outcome}
      (exchange : Exchange timeout deadline now port request contacts tale outcome) :
      Treatment timeout deadline now port frame (.forward request) contacts tale outcome
  /-- The frame is for another slave. -/
  | ignored : Treatment timeout deadline now port frame .ignore [] [.ignored frame] (.ok ())
  /-- The frame has no place in the protocol. -/
  | rejected : Treatment timeout deadline now port frame .reject [] [.unexpected port frame] (.ok ())

/-- Answering a master for the slave follows its course. -/
theorem acknowledge_follows (port : Port) (mux : Multiplexer) :
    Follows (Handover (.acknowledging port) port .single [.acknowledged port] mux.now) mux
      (acknowledge port mux) := by
  have announces : (Activity.acknowledging port).Announces port .single := ⟨rfl, rfl⟩
  have remark : (Activity.acknowledged port).IsRemark := ⟨rfl, rfl⟩
  exact send_report_follows mux announces remark

/-- Carrying out a decision follows its course. -/
theorem carryOut_follows (deadline : Nat) (port : Port) (frame : Frame) (decision : Decision)
    (mux : Multiplexer) :
    Follows (Treatment mux.routing.responseTimeout deadline mux.now port frame decision) mux
      (carryOut deadline port frame decision mux) := by
  cases decision with
  | acknowledge =>
    obtain ⟨contacts, tale, handover, passage⟩ := acknowledge_follows port mux
    exact ⟨contacts, tale, .acknowledged handover, passage⟩
  | acknowledgeSelection =>
    have remark : Activity.selected.IsRemark := ⟨rfl, rfl⟩
    apply Follows.of_passage (.told mux remark)
    obtain ⟨contacts, tale, handover, passage⟩ := acknowledge_follows port (mux.note .selected)
    exact ⟨contacts, tale, .selected handover, passage⟩
  | forward request =>
    obtain ⟨contacts, tale, exchange, passage⟩ := exchange_follows deadline port request mux
    exact ⟨contacts, tale, .forwarded exchange, passage⟩
  | ignore => exact ⟨[], _, .ignored, .told mux ⟨rfl, rfl⟩⟩
  | reject => exact ⟨[], _, .rejected, .told mux ⟨rfl, rfl⟩⟩

/-- Dealing with a frame is carrying out what is decided about it. -/
theorem handle_eq (deadline : Nat) (port : Port) (frame : Frame) (mux : Multiplexer) :
    handle deadline port frame mux
      = carryOut deadline port frame (mux.routing.decide port frame) mux := by
  cases port <;> rfl

theorem step_eq (deadline : Nat) : step deadline = (do
    match ← select deadline with
    | none => return ()
    | some (port, frame) => handle deadline port frame) := by
  unfold step select
  rw [bind_assoc]
  apply bind_congr
  intro mux
  rw [bind_assoc]
  apply bind_congr
  intro _
  cases mux.anyListening <;> rfl

/-- A step that takes a frame carries out what the rules decide about it. -/
theorem step_eq_carryOut {deadline : Nat}
    (selected : outcomeOf (select deadline mux) = .ok (some (port, frame))) :
    step deadline mux = carryOut deadline port frame
      ((leftBy (select deadline mux)).routing.decide port frame) (leftBy (select deadline mux)) := by
  rw [step_eq]
  simp only [bind, EStateM.bind]
  rw [eq_ok_of_outcomeOf selected]
  exact handle_eq ..

/-- A step whose wait for a frame does not come to its end ends with it. -/
theorem step_eq_halted {deadline : Nat} {halt : Halt}
    (selected : outcomeOf (select deadline mux) = .error halt) :
    step deadline mux = .error halt (leftBy (select deadline mux)) := by
  rw [step_eq]
  simp only [bind, EStateM.bind]
  rw [eq_error_of_outcomeOf selected]
  rfl

/-- A step that takes no frame does nothing more. -/
theorem step_eq_idle {deadline : Nat} (selected : outcomeOf (select deadline mux) = .ok none) :
    step deadline mux = .ok () (leftBy (select deadline mux)) := by
  rw [step_eq]
  simp only [bind, EStateM.bind]
  rw [eq_ok_of_outcomeOf selected]
  rfl

/-- How a step goes on behind the wait for a frame. -/
inductive Onward (deadline : Nat) (mux : Multiplexer) : Prop where
  /-- The wait has not come to its end. -/
  | halted {halt : Halt} (selected : outcomeOf (select deadline mux) = .error halt)
      (whole : step deadline mux = .error halt (leftBy (select deadline mux)))
  /-- The work has been cancelled. -/
  | idle (selected : outcomeOf (select deadline mux) = .ok none)
      (whole : step deadline mux = .ok () (leftBy (select deadline mux)))
  /-- A frame has been taken, and is dealt with. -/
  | handled {port : Port} {frame : Frame} {contacts : Contacts} {tale : List Activity}
      (selected : outcomeOf (select deadline mux) = .ok (some (port, frame)))
      (treatment : Treatment mux.routing.responseTimeout deadline (leftBy (select deadline mux)).now
        port frame (mux.routing.decide port frame) contacts tale (outcomeOf (step deadline mux)))
      (passage : Passage (leftBy (select deadline mux)) contacts tale (leftBy (step deadline mux)))

/-- A step goes on in one of these ways. -/
theorem step_onward (deadline : Nat) (mux : Multiplexer) : Onward deadline mux := by
  cases selected : outcomeOf (select deadline mux) with
  | error halt => exact .halted selected (step_eq_halted selected)
  | ok found =>
    cases found with
    | none => exact .idle selected (step_eq_idle selected)
    | some taken =>
      obtain ⟨port, frame⟩ := taken
      obtain ⟨_, _, _, choosing⟩ := select_follows deadline mux
      have whole := step_eq_carryOut selected
      rw [choosing.routing] at whole
      obtain ⟨contacts, tale, treatment, passage⟩ := carryOut_follows deadline port frame
        (mux.routing.decide port frame) (leftBy (select deadline mux))
      rw [choosing.routing, ← whole] at treatment
      rw [← whole] at passage
      exact .handled selected treatment passage

/-! ## Steps -/

/-- How a step can go whose wait for a frame has come to something. -/
inductive Turn (routing : Routing) (deadline : Nat) : Except Halt (Option (Port × Frame)) →
    Contacts → List Activity → Except Halt Unit → Prop where
  /-- No frame is waited for to the end. -/
  | stopped {contacts tale halt} (selection : Selection contacts tale (.error halt)) :
      Turn routing deadline (.error halt) contacts tale (.error halt)
  /-- The work is cancelled. -/
  | cancelled {contacts tale} (selection : Selection contacts tale (.ok none)) :
      Turn routing deadline (.ok none) contacts tale (.ok ())
  /-- A frame is taken and dealt with. -/
  | handled {contacts tale port frame now later more outcome}
      (selection : Selection contacts tale (.ok (some (port, frame))))
      (treatment : Treatment routing.responseTimeout deadline now port frame
        (routing.decide port frame) later more outcome) :
      Turn routing deadline (.ok (some (port, frame))) (contacts ++ later) (tale ++ more) outcome

/-- A step follows its course. -/
theorem step_follows (deadline : Nat) (mux : Multiplexer) :
    Follows (Turn mux.routing deadline (outcomeOf (select deadline mux))) mux
      (step deadline mux) := by
  obtain ⟨contacts, tale, selection, choosing⟩ := select_follows deadline mux
  cases step_onward deadline mux with
  | halted selected whole =>
    rw [selected] at selection ⊢
    rw [whole]
    exact ⟨contacts, tale, .stopped selection, choosing⟩
  | idle selected whole =>
    rw [selected] at selection ⊢
    rw [whole]
    exact ⟨contacts, tale, .cancelled selection, choosing⟩
  | handled selected treatment passage =>
    rw [selected] at selection ⊢
    exact ⟨_, _, .handled selection treatment, choosing.trans passage⟩

end Multiplexer

end MeterBus
