import MeterBus.Proofs.Proxy.Conservation

/-!
# Where the frames for the masters come from

A step hands a frame to a master only because of a frame that it took from that master: it answers
for the slave, or relays what the slave gave behind the request. `Answers` says this of the contacts
in front of the frame, so that it can be said of whole histories as well. `Serves` says what else a
step that handles a frame of a master does with the lines.
-/

namespace MeterBus

/-- The frame that a contact took off the line of a port. -/
def Contact.received? : Port × Contact → Option (Port × Frame)
  | (port, .poll _ (.frame frame)) => some (port, frame)
  | (port, .wait _ _ _ (.frame frame)) => some (port, frame)
  | _ => none

/-- The frame that a contact handed to the line of a port. -/
def Contact.handed? : Port × Contact → Option (Port × Frame)
  | (port, .write _ frame _) => some (port, frame)
  | _ => none

/-- Nothing is handed over while frames are taken. -/
@[simp] theorem Contact.handed_takings (now : Nat) (frames : List Frame) :
    (Contacts.on .slave (takings now frames)).filterMap handed? = [] := by
  simp [Contacts.on, takings, List.filterMap_map, Function.comp_def, handed?]

/-- The frames that were handed to a port. -/
def Contacts.handedTo (port : Port) (contacts : Contacts) : List Frame :=
  (contacts.filterMap Contact.handed?).filterMap fun (other, frame) =>
    if other = port then some frame else none

/-- The frames that were taken from a port. -/
def Contacts.takenFrom (port : Port) (contacts : Contacts) : List Frame :=
  (contacts.filterMap Contact.received?).filterMap fun (other, frame) =>
    if other = port then some frame else none

/-- Whether something holds wherever a frame is handed over, of the contacts before, the port and
the frame. -/
structure Contacts.AtEachWrite (holds : Contacts → Port → Frame → Prop) (contacts : Contacts) :
    Prop where
  at_write : ∀ before port time frame written later,
    contacts = before ++ (port, .write time frame written) :: later → holds before port frame

namespace Contacts

variable {holds : Contacts → Port → Frame → Prop} {contacts later : Contacts} (port : Port)

@[simp] theorem handedTo_append :
    (contacts ++ later).handedTo port = contacts.handedTo port ++ later.handedTo port := by
  simp [handedTo, List.filterMap_append]

@[simp] theorem takenFrom_append :
    (contacts ++ later).takenFrom port = contacts.takenFrom port ++ later.takenFrom port := by
  simp [takenFrom, List.filterMap_append]

variable {port} in
/-- Contacts with the line of another port hand nothing to this one. -/
theorem handedTo_on_of_ne {other : Port} (distinct : other ≠ port) (contacts : List Contact) :
    (Contacts.on other contacts).handedTo port = [] := by
  induction contacts with
  | nil => rfl
  | cons contact contacts inductionHypothesis =>
    rw [Contacts.on_cons, ← List.singleton_append, handedTo_append, inductionHypothesis]
    cases contact <;> simp [handedTo, Contact.handed?, distinct]

/-- Writes to the line of a port hand it their frames. -/
@[simp] theorem handedTo_on_writes (time : Nat) (written : Except LinkError (List UInt8))
    (frames : List Frame) :
    (Contacts.on port (frames.map fun frame => .write time frame written)).handedTo port
      = frames := by
  simp [handedTo, on, List.filterMap_map, Function.comp_def, Contact.handed?]

variable {port} in
/-- What is handed to a port is handed over in a write. -/
theorem exists_write_of_handedTo (handed : contacts.handedTo port ≠ []) :
    ∃ time frame written, (port, .write time frame written) ∈ contacts := by
  obtain ⟨frame, among⟩ := List.exists_mem_of_ne_nil _ handed
  obtain ⟨⟨other, given⟩, amongHanded, same⟩ := List.mem_filterMap.1 among
  obtain ⟨⟨_, contact⟩, amongContacts, handing⟩ := List.mem_filterMap.1 amongHanded
  cases contact with
  | write time frame written =>
    cases handing
    obtain ⟨rfl, _⟩ : other = port ∧ _ := by simpa using same
    exact ⟨time, _, written, amongContacts⟩
  | _ => cases handing

/-- Contacts that hand nothing over hand nothing to any port. -/
theorem handedTo_of_silent (silent : contacts.filterMap Contact.handed? = []) :
    contacts.handedTo port = [] := by
  rw [handedTo, silent]
  rfl

/-- Where nothing is handed over, everything holds. -/
theorem atEachWrite_of_silent (silent : contacts.filterMap Contact.handed? = []) :
    contacts.AtEachWrite holds := by
  constructor
  rintro before port time frame written later rfl
  simp [Contact.handed?] at silent

/-- Writes are those of some contacts and those behind them. -/
theorem AtEachWrite.append (first : contacts.AtEachWrite holds)
    (second : later.AtEachWrite fun before => holds (contacts ++ before)) :
    (contacts ++ later).AtEachWrite holds := by
  constructor
  intro before port time frame written behind split
  rcases List.append_eq_append_iff.1 split with ⟨middle, rfl, rest⟩ | ⟨middle, rfl, rest⟩
  · exact second.at_write middle port time frame written behind rest
  · cases middle with
    | nil =>
      rw [List.nil_append] at rest
      have here := second.at_write [] port time frame written behind rest.symm
      simpa using here
    | cons contact others =>
      obtain ⟨rfl, rfl⟩ := List.cons_eq_cons.1 rest
      exact first.at_write before port time frame written others rfl

/-- A single write. -/
theorem atEachWrite_singleton {frame : Frame} {time : Nat}
    {written : Except LinkError (List UInt8)} (here : holds [] port frame) :
    AtEachWrite holds [(port, .write time frame written)] := by
  constructor
  intro before other otherTime otherFrame otherWritten later split
  cases before with
  | nil =>
    cases split
    exact here
  | cons contact others => simp at split

end Contacts

namespace Multiplexer

/-- Whether a frame that is handed to a master behind some contacts answers the frame that was taken
last from any master, which was a frame of this one. -/
inductive Answers (routing : Routing) (master : Port) (frame : Frame) : Contacts → Prop where
  /-- The master is answered for the slave. -/
  | acknowledgement {earlier now asked} (single : frame = .single)
      (decided : routing.decide master asked = .acknowledge ∨
        routing.decide master asked = .acknowledgeSelection) :
      Answers routing master frame (earlier ++ [(master, .poll now (.frame asked))])
  /-- The request of the master was written to the slave, and this is what the slave gave then. -/
  | reply {earlier now asked request checking checked stale time bytes start limit finish}
      (decided : routing.decide master asked = .forward request)
      (check : Check checked checking stale (.ok ())) :
      Answers routing master frame (earlier ++ (master, .poll now (.frame asked)) :: (checking ++
        [(.slave, .write time request (.ok bytes)), (.slave, .wait start limit finish (.frame frame))]))

variable {routing : Routing} {master port : Port} {frame : Frame} {contacts earlier : Contacts}
  {tale : List Activity} {outcome : Except Halt Unit} {timeout deadline now : Nat}

/-- What answers a frame does so whatever came before. -/
theorem Answers.behind (answers : Answers routing master frame contacts) (earlier : Contacts) :
    Answers routing master frame (earlier ++ contacts) := by
  cases answers with
  | acknowledgement single decided =>
    rw [← List.append_assoc]
    exact .acknowledgement single decided
  | reply decided check =>
    rw [← List.append_assoc]
    exact .reply decided check

/-! ## What is handed over on each course -/

/-- While no frame comes, nothing is handed over. -/
theorem Idling.silent (idling : Idling contacts tale) :
    contacts.filterMap Contact.handed? = [] := by
  induction idling with
  | start => rfl
  | quiet _ inductionHypothesis => exact inductionHypothesis
  | ended _ inductionHypothesis => exact inductionHypothesis

/-- Nothing is handed over before a frame is taken. -/
theorem Selection.silent {found : Except Halt (Option (Port × Frame))}
    (selection : Selection contacts tale found) : contacts.filterMap Contact.handed? = [] := by
  cases selection with
  | deaf idling => exact idling.silent
  | abandoned idling => exact idling.silent
  | cancelled idling => exact idling.silent
  | failed idling => simp [idling.silent, Contact.handed?]
  | taken idling => simp [idling.silent, Contact.handed?]

/-- Nothing is handed over while frames are dropped. -/
theorem Check.silent (check : Check now contacts tale outcome) :
    contacts.filterMap Contact.handed? = [] := by
  cases check <;> simp [Contact.handed?]

/-- What is announced is handed over. -/
theorem Handover.atEachWrite {announcement : Activity} {done : List Activity}
    {holds : Contacts → Port → Frame → Prop}
    (handover : Handover announcement port frame done now contacts tale outcome)
    (here : holds [] port frame) : contacts.AtEachWrite holds := by
  cases handover with
  | written => exact Contacts.atEachWrite_singleton port here
  | unwritten => exact Contacts.atEachWrite_singleton port here

/-- What an exchange hands to a master is what the slave gave behind the request. -/
theorem Exchange.atEachWrite {asked request : Frame} {time : Nat}
    (decided : routing.decide master asked = .forward request)
    (exchange : Exchange timeout deadline now master request contacts tale outcome) :
    contacts.AtEachWrite fun before port frame => port ≠ .slave →
      Answers routing port frame (earlier ++ (master, .poll time (.frame asked)) :: before) := by
  cases exchange with
  | unchecked check => exact Contacts.atEachWrite_of_silent check.silent
  | unasked check handover =>
    apply (Contacts.atEachWrite_of_silent check.silent).append
    exact handover.atEachWrite fun master => absurd rfl master
  | asked check handover answering =>
    apply (Contacts.atEachWrite_of_silent check.silent).append
    apply (handover.atEachWrite fun master => absurd rfl master).append
    cases handover with
    | written =>
      cases answering with
      | answered answer =>
        apply (Contacts.atEachWrite_of_silent rfl).append
        apply answer.atEachWrite
        intro _
        exact .reply decided check
      | _ => exact Contacts.atEachWrite_of_silent rfl

/-- What a treatment hands to a master answers the frame that is treated. -/
theorem Treatment.atEachWrite {time : Nat}
    (treatment : Treatment timeout deadline now port frame (routing.decide port frame) contacts tale
      outcome) :
    contacts.AtEachWrite fun before other given => other ≠ .slave →
      Answers routing other given (earlier ++ (port, .poll time (.frame frame)) :: before) := by
  generalize decided : routing.decide port frame = decision at treatment
  cases treatment with
  | acknowledged handover =>
    apply handover.atEachWrite
    exact fun _ => .acknowledgement rfl (.inl decided)
  | selected handover =>
    apply handover.atEachWrite
    exact fun _ => .acknowledgement rfl (.inr decided)
  | forwarded exchange => exact exchange.atEachWrite decided
  | ignored => exact Contacts.atEachWrite_of_silent rfl
  | rejected => exact Contacts.atEachWrite_of_silent rfl

/-- What a turn hands to a master answers the frame that it took. -/
theorem Turn.atEachWrite {found : Except Halt (Option (Port × Frame))}
    (turn : Turn routing deadline found contacts tale outcome) :
    contacts.AtEachWrite fun before port frame => port ≠ .slave →
      Answers routing port frame before := by
  cases turn with
  | stopped selection => exact Contacts.atEachWrite_of_silent selection.silent
  | cancelled selection => exact Contacts.atEachWrite_of_silent selection.silent
  | handled selection treatment =>
    apply (Contacts.atEachWrite_of_silent selection.silent).append
    cases selection with
    | taken idling =>
      simp only [List.append_assoc, List.singleton_append]
      exact treatment.atEachWrite

/-- What a chain of turns hands to a master answers the frame that was taken last. -/
theorem Turns.atEachWrite {failures : Nat} (turns : Turns routing contacts tale failures) :
    contacts.AtEachWrite fun before port frame => port ≠ .slave →
      Answers routing port frame before := by
  induction turns with
  | none => exact Contacts.atEachWrite_of_silent rfl
  | turn before turn _ inductionHypothesis =>
    apply inductionHypothesis.append
    constructor
    intro middle port time frame written later split master
    exact (turn.atEachWrite.at_write middle port time frame written later split master).behind _

/-- What becomes of the frames in a chain of turns is told in its order. -/
theorem Turns.movements {failures : Nat} (turns : Turns routing contacts tale failures) :
    tale.filterMap Activity.movement? = contacts.flatMap Contact.movements := by
  induction turns with
  | none => rfl
  | turn before turn passage inductionHypothesis =>
    rw [List.filterMap_append, List.flatMap_append, inductionHypothesis, passage.movements]

/-! ## What else a step does with the lines -/

/-- Whether a frame for a master is an acknowledgement, in a step that has nothing to do with the
slave and counts what is sent as acknowledged. -/
structure Acknowledges (master : Port) (contacts : Contacts) (tale : List Activity) (frame : Frame) :
    Prop where
  single : frame = .single
  untaken : contacts.takenFrom .slave = []
  unhanded : contacts.handedTo .slave = []
  counted : Counter.localAcks.tally tale = master.sentCounter.tally tale

/-- Whether a frame is what the slave gave behind a request that was written to it, in a step that
acknowledges nothing. -/
inductive Relays (tale : List Activity) (frame : Frame) : Contacts → Prop where
  | asked {earlier time request bytes start limit finish}
      (unacknowledged : Counter.localAcks.tally tale = 0) :
      Relays tale frame (earlier ++
        [(.slave, .write time request (.ok bytes)), (.slave, .wait start limit finish (.frame frame))])

/-- What a step that handles a frame of a master does with the lines. -/
structure Serves (master : Port) (contacts : Contacts) (tale : List Activity) : Prop where
  strangers : ∀ port, port ≠ .slave → port ≠ master → contacts.handedTo port = []
  slaveOnce : (contacts.handedTo .slave).length ≤ 1
  masterOnce : (contacts.handedTo master).length ≤ 1
  answer : contacts.AtEachWrite fun before port frame => port = master →
    Acknowledges master contacts tale frame ∨ Relays tale frame before

/-- A request is handed to the slave at most, and one frame to the master. -/
theorem Serves.of_sublist (request reply : Frame) (distinct : master ≠ .slave)
    (handed : (contacts.filterMap Contact.handed?).Sublist [(.slave, request), (master, reply)])
    (answer : contacts.AtEachWrite fun before port frame => port = master →
      Acknowledges master contacts tale frame ∨ Relays tale frame before) :
    Serves master contacts tale := by
  have among (port : Port) : (contacts.handedTo port).Sublist
      ([(Port.slave, request), (master, reply)].filterMap fun (other, frame) =>
        if other = port then some frame else none) :=
    handed.filterMap _
  constructor
  · intro port notSlave notMaster
    have none := among port
    simpa [Ne.symm notSlave, Ne.symm notMaster] using none
  · have one := (among .slave).length_le
    simpa [distinct] using one
  · have one := (among master).length_le
    simpa [Ne.symm distinct] using one
  · exact answer

/-- What is announced is handed over once. -/
theorem Handover.handed {announcement : Activity} {done : List Activity}
    (handover : Handover announcement port frame done now contacts tale outcome) :
    contacts.filterMap Contact.handed? = [(port, frame)] := by
  cases handover <;> rfl

/-- A frame of the slave at most is handed over behind a request. -/
theorem Answering.handed
    (answering : Answering timeout deadline now master contacts tale outcome) :
    ∃ reply, (contacts.filterMap Contact.handed?).Sublist [(master, reply)] := by
  cases answering with
  | @answered finish reply contacts tale outcome handover =>
    refine ⟨reply, ?_⟩
    rw [List.filterMap_append, handover.handed]
    exact List.Sublist.refl _
  | _ => exact ⟨.single, by simp [Contact.handed?]⟩

/-- An exchange hands the request to the slave, and then a frame to the master, or less. -/
theorem Exchange.handed {request : Frame}
    (exchange : Exchange timeout deadline now master request contacts tale outcome) :
    ∃ reply, (contacts.filterMap Contact.handed?).Sublist [(.slave, request), (master, reply)] := by
  cases exchange with
  | unchecked check => exact ⟨.single, by simp [check.silent]⟩
  | unasked check handover => exact ⟨.single, by simp [check.silent, handover.handed]⟩
  | asked check handover answering =>
    obtain ⟨reply, handed⟩ := answering.handed
    refine ⟨reply, ?_⟩
    rw [List.filterMap_append, List.filterMap_append, check.silent, handover.handed]
    exact handed.cons_cons _

/-- An exchange acknowledges nothing. -/
theorem Exchange.unacknowledged {request : Frame}
    (exchange : Exchange timeout deadline now master request contacts tale outcome) :
    Counter.localAcks.tally tale = 0 := by
  have dropped {checking stale} {checked : Except Halt Unit}
      (check : Check now checking stale checked) : Counter.localAcks.tally stale = 0 := by
    have served := check.balanced.served
    omega
  cases exchange with
  | unchecked check => exact dropped check
  | unasked check handover =>
    cases handover with
    | unwritten => simp [dropped check, Activity.counter?]
  | asked check handover answering =>
    cases handover with
    | written =>
      cases answering with
      | answered answer => cases answer <;> simp [dropped check, Activity.counter?]
      | _ => simp [dropped check, Activity.counter?]

/-- What the slave gave behind a request it gave so whatever came before. -/
theorem Relays.behind (relays : Relays tale frame contacts) (earlier : Contacts) :
    Relays tale frame (earlier ++ contacts) := by
  cases relays with
  | asked unacknowledged =>
    rw [← List.append_assoc]
    exact .asked unacknowledged

/-- The frame that an exchange hands to its master is what the slave gave behind the request. -/
theorem Exchange.relays {request : Frame} {whole : List Activity} (distinct : master ≠ .slave)
    (unacknowledged : Counter.localAcks.tally whole = 0)
    (exchange : Exchange timeout deadline now master request contacts tale outcome) :
    contacts.AtEachWrite fun before port frame => port = master → Relays whole frame before := by
  cases exchange with
  | unchecked check => exact Contacts.atEachWrite_of_silent check.silent
  | unasked check handover =>
    apply (Contacts.atEachWrite_of_silent check.silent).append
    exact handover.atEachWrite fun same => absurd same.symm distinct
  | asked check handover answering =>
    apply (Contacts.atEachWrite_of_silent check.silent).append
    apply (handover.atEachWrite fun same => absurd same.symm distinct).append
    cases handover with
    | written =>
      cases answering with
      | answered answer =>
        apply (Contacts.atEachWrite_of_silent rfl).append
        apply answer.atEachWrite
        intro _
        exact .asked unacknowledged
      | _ => exact Contacts.atEachWrite_of_silent rfl

/-- While no frame comes, none is taken. -/
theorem Idling.untaken (idling : Idling contacts tale) :
    contacts.filterMap Contact.received? = [] := by
  induction idling with
  | start => rfl
  | quiet _ inductionHypothesis => exact inductionHypothesis
  | ended _ inductionHypothesis => exact inductionHypothesis

/-- What is taken from other ports is not taken from the slave. -/
theorem Idling.untaken_slave {time : Nat} (distinct : port ≠ .slave)
    (idling : Idling contacts tale) :
    Contacts.takenFrom .slave (contacts ++ [(port, .poll time (.frame frame))]) = [] := by
  simp [Contacts.takenFrom, idling.untaken, Contact.received?, distinct]

/-- A master that gets nothing is served. -/
theorem Serves.of_silent (distinct : master ≠ .slave)
    (silent : contacts.filterMap Contact.handed? = []) : Serves master contacts tale := by
  apply Serves.of_sublist .single .single distinct
  · rw [silent]
    exact List.nil_sublist _
  · exact Contacts.atEachWrite_of_silent silent

/-- A master that is acknowledged, with nothing to do with the slave before, is served. -/
theorem Handover.serves {before : Contacts} {told : List Activity} (distinct : port ≠ .slave)
    (silent : before.filterMap Contact.handed? = []) (untaken : before.takenFrom .slave = [])
    (even : Counter.localAcks.tally told = port.sentCounter.tally told)
    (handover : Handover (.acknowledging port) port .single [.acknowledged port] now contacts tale
      outcome) : Serves port (before ++ contacts) (told ++ tale) := by
  have handed := handover.handed
  apply Serves.of_sublist .single .single distinct
  · rw [List.filterMap_append, silent, handed]
    exact List.sublist_cons_self _ _
  · apply (Contacts.atEachWrite_of_silent silent).append
    apply handover.atEachWrite
    intro _
    left
    constructor
    · rfl
    · rw [Contacts.takenFrom_append, untaken]
      cases handover <;> rfl
    · rw [Contacts.handedTo_append, Contacts.handedTo_of_silent .slave silent]
      simp [Contacts.handedTo, handed, distinct]
    · rw [Counter.tally_append, Counter.tally_append, even]
      cases handover <;> simp [Activity.counter?]

/-- A master for which the slave is asked is served. -/
theorem Exchange.serves {before : Contacts} {told : List Activity} {request : Frame}
    (distinct : master ≠ .slave) (silent : before.filterMap Contact.handed? = [])
    (unacknowledged : Counter.localAcks.tally told = 0)
    (exchange : Exchange timeout deadline now master request contacts tale outcome) :
    Serves master (before ++ contacts) (told ++ tale) := by
  obtain ⟨reply, handed⟩ := exchange.handed
  have whole : Counter.localAcks.tally (told ++ tale) = 0 := by
    rw [Counter.tally_append, unacknowledged, exchange.unacknowledged]
  apply Serves.of_sublist request reply distinct
  · rw [List.filterMap_append, silent, List.nil_append]
    exact handed
  · apply (Contacts.atEachWrite_of_silent silent).append
    constructor
    intro middle port time frame written later split same
    have relays := (exchange.relays distinct whole).at_write middle port time frame written later
    exact .inr ((relays split same).behind before)

/-- What is done with a frame of a master serves that master. -/
theorem Treatment.serves {decision : Decision} {time : Nat} {waiting : Contacts}
    {waited : List Activity} (distinct : port ≠ .slave) (idling : Idling waiting waited)
    (treatment : Treatment timeout deadline now port frame decision contacts tale outcome) :
    Serves port (waiting ++ [(port, .poll time (.frame frame))] ++ contacts)
      (waited ++ [.received port frame] ++ tale) := by
  have silent : (waiting ++ [(port, Contact.poll time (.frame frame))]).filterMap Contact.handed?
      = [] := by
    simp [idling.silent, Contact.handed?]
  have uncounted (counter : Counter) : counter.tally waited = 0 :=
    counter.tally_eq_zero idling.uncounted
  cases treatment with
  | acknowledged handover =>
    apply handover.serves distinct silent (idling.untaken_slave distinct)
    simp [uncounted, Activity.counter?]
  | selected handover =>
    rw [List.append_cons (waited ++ _)]
    apply handover.serves distinct silent (idling.untaken_slave distinct)
    simp [uncounted, Activity.counter?]
  | forwarded exchange =>
    apply exchange.serves distinct silent
    simp [uncounted, Activity.counter?]
  | ignored => exact .of_silent distinct (by rw [List.filterMap_append, silent]; rfl)
  | rejected => exact .of_silent distinct (by rw [List.filterMap_append, silent]; rfl)

/-- In no state does a step hand a frame to a master that asked for nothing in this step, or more than
one frame to a port. A master is acknowledged, or gets what the slave gave behind its request. A step
that handles no frame of a master hands over nothing. So in the whole history, what was handed to a
master answered the frame that was taken last from any master, and that was a frame of this one. -/
theorem no_cross_delivery (lines : PerPort Line) (routing : Routing)
    (happenings : List Happening) :
    (∀ deadline mux, ∃ contacts tale, Passage mux contacts tale (leftBy (step deadline mux)) ∧
      match outcomeOf (select deadline mux) with
      | .ok (some (.externalMaster, _)) => Serves .externalMaster contacts tale
      | .ok (some (.localMaster, _)) => Serves .localMaster contacts tale
      | _ => ∀ port, contacts.handedTo port = []) ∧
    let mux := (startingOn lines routing).behind happenings
    ∃ contacts : Contacts,
      mux.story.filterMap Activity.movement? = contacts.flatMap Contact.movements ∧
      contacts.AtEachWrite fun before port frame => port ≠ .slave →
        Answers routing port frame before := by
  constructor
  · intro deadline mux
    obtain ⟨contacts, tale, turn, passage⟩ := step_follows deadline mux
    refine ⟨contacts, tale, passage, ?_⟩
    generalize outcomeOf (select deadline mux) = found at turn ⊢
    generalize outcomeOf (step deadline mux) = outcome at turn
    cases turn with
    | stopped selection => exact fun port => Contacts.handedTo_of_silent port selection.silent
    | cancelled selection => exact fun port => Contacts.handedTo_of_silent port selection.silent
    | @handled _ _ port frame _ _ _ _ selection treatment =>
      cases selection with
      | taken idling =>
        cases port with
        | externalMaster => exact treatment.serves (by decide) idling
        | localMaster => exact treatment.serves (by decide) idling
        | slave =>
          cases treatment with
          | rejected =>
            intro port
            apply Contacts.handedTo_of_silent
            simp [idling.silent, Contact.handed?]
  · obtain ⟨_, contacts, turns⟩ := recounts_startingOn lines routing happenings
    exact ⟨contacts, turns.movements, turns.atEachWrite⟩

end Multiplexer

end MeterBus
