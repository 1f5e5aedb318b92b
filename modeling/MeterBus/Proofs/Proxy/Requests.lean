import MeterBus.Proofs.Proxy.Replies
import MeterBus.Proofs.Stream.Validity

/-!
# What may be handed to a port

Nothing is handed to the slave but requests under its own address, none of which resets its link, and
each is called for by the frame of a master that was taken last. Every frame that is handed to any
port fits the wire format: it is a fixed acknowledgement, a short frame, or a frame that was read.
`Routing.Permits` says this of the movements in front of a frame, so that it can be said of a step
and of a whole history.
-/

namespace MeterBus

/-- Whether an activity tells of bytes that are written. -/
def Activity.writes : Activity → Bool
  | .relieved .. | .sent .. => true
  | _ => false

/-- Whether a frame of a master calls for a request to the slave. -/
inductive Routing.CallsFor (routing : Routing) (request : Frame) : Port → Frame → Prop where
  /-- The external master speaks of the slave by the address that the slave has. -/
  | external : CallsFor routing request .externalMaster request
  /-- The local master speaks of the slave by another address, and asks it in short frames. -/
  | local {control} (rewritten : request = .short control routing.slaveAddress) :
      CallsFor routing request .localMaster (.short control routing.localAddress)

/-- What a valid frame calls for is valid. -/
theorem Routing.CallsFor.validate {routing : Routing} {port : Port} {frame request : Frame}
    (called : routing.CallsFor request port frame) (valid : frame.validate = .ok ()) :
    request.validate = .ok () := by
  cases called with
  | external => exact valid
  | «local» rewritten =>
    rw [rewritten]
    rfl

/-- Whether a frame is one for the slave: it has an address, which is that of the slave, and is no
reset of the link. -/
structure Routing.Admits (routing : Routing) (request : Frame) : Prop where
  addressed : request.address? = some routing.slaveAddress
  noReset : ∀ address, request ≠ .short ControlField.sndNke address

/-- Whether a frame may be handed to a port behind these movements. -/
structure Routing.Permits (routing : Routing) (before : List Movement) (port : Port)
    (frame : Frame) : Prop where
  valid : frame.validate = .ok ()
  encodes : ∀ (codec : Codec) (buffer : List UInt8), (codec.encode frame buffer).result = .ok none
  admitted : port = .slave → routing.Admits frame
  /-- Behind the frame of a master that calls for a request, only frames of the slave were taken. -/
  called : port = .slave → ∃ earlier master asked, ∃ stale : List Frame,
    before = earlier ++ .taken master asked :: stale.map (.taken .slave) ∧
      routing.CallsFor frame master asked

/-- What is forwarded is for the slave, and called for by the frame that is dealt with. -/
theorem Routing.admits_of_forward {routing : Routing} {port : Port} {frame request : Frame}
    (decided : routing.decide port frame = .forward request) :
    routing.Admits request ∧ routing.CallsFor request port frame := by
  cases port with
  | slave => cases decided
  | externalMaster =>
    change routing.ofExternal frame = .forward request at decided
    unfold ofExternal at decided
    split at decided
    · cases decided
    · next address addressed =>
      split at decided
      · cases decided
      · next notReset =>
        split at decided
        · next forSlave =>
          cases decided
          subst forSlave
          refine ⟨⟨addressed, ?_⟩, .external⟩
          rintro other rfl
          obtain rfl : other = routing.slaveAddress := Option.some.inj addressed
          exact notReset ⟨rfl, .inr rfl⟩
        · cases decided
  | localMaster =>
    change routing.ofLocal frame = .forward request at decided
    unfold ofLocal at decided
    split at decided
    · next control address =>
      split at decided
      · cases decided
      · next notReset =>
        split at decided
        · next forSlave =>
          cases decided
          subst forSlave
          refine ⟨⟨rfl, ?_⟩, .local rfl⟩
          rintro other same
          obtain ⟨reset, _⟩ := Frame.short.inj same
          exact notReset ⟨reset, .inr rfl⟩
        · cases decided
    · split at decided <;> cases decided
    · cases decided

/-- A contact that hands a frame over does so first of all. -/
theorem Contact.write_of_movements {port other : Port} {contact : Contact} {frame : Frame}
    {earlier later : List Movement}
    (split : Contact.movements (other, contact) = earlier ++ .handed port frame :: later) :
    earlier = [] ∧ other = port ∧ ∃ time written, contact = .write time frame written := by
  cases contact with
  | poll time answer =>
    cases answer <;> simp [movements, List.cons_eq_append_iff] at split
  | wait start limit finish answer =>
    cases answer <;> simp [movements, List.cons_eq_append_iff] at split
  | write time sent written =>
    cases written with
    | ok bytes =>
      simp only [movements, List.cons_eq_append_iff] at split
      simp_all
    | error cause =>
      simp only [movements, List.cons_eq_append_iff] at split
      simp_all

/-- What is handed to a port is handed over in a write, in the order of the movements. -/
theorem Contacts.exists_write_of_movements {contacts : Contacts} {port : Port} {frame : Frame}
    {earlier later : List Movement}
    (split : contacts.flatMap Contact.movements = earlier ++ .handed port frame :: later) :
    ∃ before time written behind, contacts = before ++ (port, .write time frame written) :: behind ∧
      before.flatMap Contact.movements = earlier := by
  induction contacts generalizing earlier with
  | nil => simp at split
  | cons contact others inductionHypothesis =>
    rw [List.flatMap_cons] at split
    rcases List.append_eq_append_iff.1 split with ⟨middle, rfl, rest⟩ | ⟨middle, here, rest⟩
    · obtain ⟨before, time, written, behind, rfl, moved⟩ := inductionHypothesis rest
      exact ⟨contact :: before, time, written, behind, rfl, by rw [List.flatMap_cons, moved]⟩
    · cases middle with
      | nil =>
        -- the movements part between two contacts
        have front : others.flatMap Contact.movements = [] ++ .handed port frame :: later := rest.symm
        obtain ⟨before, time, written, behind, rfl, moved⟩ := inductionHypothesis front
        exact ⟨contact :: before, time, written, behind, rfl, by simp [moved, here]⟩
      | cons first middle =>
        obtain ⟨rfl, _⟩ := List.cons_eq_cons.1 rest
        obtain ⟨rfl, same, time, written, write⟩ := Contact.write_of_movements here
        obtain ⟨other, contact⟩ := contact
        cases same
        cases write
        exact ⟨[], time, written, others, rfl, rfl⟩

namespace Multiplexer

variable {routing : Routing} {master port : Port} {asked frame request : Frame}
  {contacts earlier : Contacts} {tale : List Activity} {outcome : Except Halt Unit}
  {timeout deadline now : Nat}

/-- Whether a request is handed to the slave because of the frame of a master that was taken last:
what the slave had ready was taken off in between. -/
inductive Requested (routing : Routing) (request : Frame) : Contacts → Prop where
  | asked {earlier time asked now stale master}
      (decided : routing.decide master asked = .forward request) :
      Requested routing request (earlier ++ (master, .poll time (.frame asked)) ::
        Contacts.on .slave (Contact.takings now stale ++ [.poll now .pending]))

/-- What was called for is so whatever came before. -/
theorem Requested.behind (requested : Requested routing request contacts) (earlier : Contacts) :
    Requested routing request (earlier ++ contacts) := by
  cases requested with
  | asked decided =>
    rw [← List.append_assoc]
    exact .asked decided

/-- What an exchange hands to the slave is its request. -/
theorem Exchange.requested {time : Nat}
    (decided : routing.decide master asked = .forward request)
    (exchange : Exchange timeout deadline now master request contacts tale outcome) :
    contacts.AtEachWrite fun before port frame => port = .slave →
      Requested routing frame (earlier ++ (master, .poll time (.frame asked)) :: before) := by
  have distinct := master_of_forward decided
  have requesting {checking : Contacts} {told : List Activity}
      (check : Check now checking told (.ok ())) : Requested routing request
        (earlier ++ (master, .poll time (.frame asked)) :: (checking ++ [])) := by
    obtain ⟨stale, rfl, _⟩ := check.clear_eq
    rw [List.append_nil]
    exact .asked decided
  cases exchange with
  | unchecked check => exact Contacts.atEachWrite_of_silent check.silent
  | unasked check handover =>
    apply (Contacts.atEachWrite_of_silent check.silent).append
    exact handover.atEachWrite fun _ => requesting check
  | asked check handover answering =>
    apply (Contacts.atEachWrite_of_silent check.silent).append
    apply (handover.atEachWrite fun _ => requesting check).append
    cases answering with
    | answered answer =>
      apply (Contacts.atEachWrite_of_silent rfl).append
      exact answer.atEachWrite fun same => absurd same distinct
    | _ => exact Contacts.atEachWrite_of_silent rfl

/-- What a treatment hands to the slave is called for by the frame that is treated. -/
theorem Treatment.requested {time : Nat}
    (treatment : Treatment timeout deadline now port frame (routing.decide port frame) contacts tale
      outcome) :
    contacts.AtEachWrite fun before other request => other = .slave →
      Requested routing request (earlier ++ (port, .poll time (.frame frame)) :: before) := by
  generalize decided : routing.decide port frame = decision at treatment
  cases treatment with
  | acknowledged handover =>
    exact handover.atEachWrite fun same => absurd same (master_of_decide decided (by simp))
  | selected handover =>
    exact handover.atEachWrite fun same => absurd same (master_of_decide decided (by simp))
  | forwarded exchange => exact exchange.requested decided
  | ignored => exact Contacts.atEachWrite_of_silent rfl
  | rejected => exact Contacts.atEachWrite_of_silent rfl

/-- What a turn hands to the slave is called for by the frame that it took. -/
theorem Turn.requested {found : Except Halt (Option (Port × Frame))}
    (turn : Turn routing deadline found contacts tale outcome) :
    contacts.AtEachWrite fun before port frame => port = .slave →
      Requested routing frame before := by
  cases turn with
  | stopped selection => exact Contacts.atEachWrite_of_silent selection.silent
  | cancelled selection => exact Contacts.atEachWrite_of_silent selection.silent
  | handled selection treatment =>
    apply (Contacts.atEachWrite_of_silent selection.silent).append
    cases selection with
    | taken idling =>
      simp only [List.append_assoc, List.singleton_append]
      exact treatment.requested

/-- What a chain of turns hands to the slave is called for by the frame of a master that was taken
last. -/
theorem Turns.requested {failures : Nat} (turns : Turns routing contacts tale failures) :
    contacts.AtEachWrite fun before port frame => port = .slave →
      Requested routing frame before := by
  induction turns with
  | none => exact Contacts.atEachWrite_of_silent rfl
  | turn before turn _ inductionHypothesis =>
    apply inductionHypothesis.append
    constructor
    intro middle port time frame written later split same
    exact (turn.requested.at_write middle port time frame written later split same).behind _

/-! ## What is handed over is valid -/

/-- Whether some contacts give valid frames only. -/
def GivesValid (contacts : Contacts) : Prop :=
  ∀ contact ∈ contacts, ∀ frame, contact.2.answer = .frame frame → frame.validate = .ok ()

/-- Between two states, the lines give valid frames only. -/
theorem givesValid_of_passage {before after : Multiplexer}
    (passage : Passage before contacts tale after) : GivesValid contacts := by
  rintro ⟨port, contact⟩ among frame given
  exact (passage.lines port).validate contact (Contacts.mem_withPort.2 among) given

/-- A chain of turns gives valid frames only. -/
theorem Turns.givesValid {failures : Nat} (turns : Turns routing contacts tale failures) :
    GivesValid contacts := by
  induction turns with
  | none => simp [GivesValid]
  | turn _ _ passage inductionHypothesis =>
    intro contact among
    rcases List.mem_append.1 among with earlier | later
    · exact inductionHypothesis contact earlier
    · exact givesValid_of_passage passage contact later

/-- What answers a master is valid where only valid frames were taken. -/
theorem Answers.validate (answers : Answers routing master frame contacts)
    (valid : GivesValid contacts) : frame.validate = .ok () := by
  cases answers with
  | acknowledgement single decided =>
    rw [single]
    rfl
  | @reply _ _ _ _ _ _ _ _ _ start limit finish decided check =>
    exact valid (.slave, .wait start limit finish (.frame frame)) (by simp) frame rfl

/-- What is called for is valid where only valid frames were taken. -/
theorem Requested.validate (requested : Requested routing request contacts)
    (valid : GivesValid contacts) : request.validate = .ok () := by
  cases requested with
  | @asked _ time asked _ _ master decided =>
    obtain ⟨_, called⟩ := Routing.admits_of_forward decided
    exact called.validate (valid (master, .poll time (.frame asked)) (by simp) asked rfl)

/-- What is called for is for the slave, and the frame of the master stands in front of it. -/
theorem Requested.permitted (requested : Requested routing request contacts) :
    routing.Admits request ∧ ∃ earlier master asked, ∃ stale : List Frame,
      contacts.flatMap Contact.movements
        = earlier ++ .taken master asked :: stale.map (.taken .slave) ∧
      routing.CallsFor request master asked := by
  cases requested with
  | @asked earlier time asked now stale master decided =>
    obtain ⟨admits, called⟩ := Routing.admits_of_forward decided
    refine ⟨admits, earlier.flatMap Contact.movements, master, asked, stale, ?_, called⟩
    simp [Contact.movements]

/-- Where every frame for a master answers it and every request is called for, only permitted frames
are handed over. -/
theorem permits_of_atEachWrite (valid : GivesValid contacts)
    (answers : contacts.AtEachWrite fun before port frame => port ≠ .slave →
      Answers routing port frame before)
    (requested : contacts.AtEachWrite fun before port frame => port = .slave →
      Requested routing frame before) :
    contacts.AtEachWrite fun before port frame =>
      routing.Permits (before.flatMap Contact.movements) port frame := by
  constructor
  intro before port time frame written later split
  have validBefore : GivesValid before := by
    intro contact among
    exact valid contact (by rw [split]; exact List.mem_append_left _ among)
  have validFrame : frame.validate = .ok () := by
    by_cases slave : port = .slave
    · exact (requested.at_write before port time frame written later split slave).validate validBefore
    · exact (answers.at_write before port time frame written later split slave).validate validBefore
  constructor
  · exact validFrame
  · intro codec buffer
    rw [Codec.encode_of_validate codec buffer validFrame]
  · intro slave
    exact (requested.at_write before port time frame written later split slave).permitted.1
  · intro slave
    exact (requested.at_write before port time frame written later split slave).permitted.2

/-- A turn in which only valid frames are taken hands over valid frames only. -/
theorem Turn.validate {found : Except Halt (Option (Port × Frame))} {time : Nat}
    {written : Except LinkError (List UInt8)}
    (turn : Turn routing deadline found contacts tale outcome) (valid : GivesValid contacts)
    (among : (port, .write time frame written) ∈ contacts) : frame.validate = .ok () := by
  obtain ⟨before, later, split⟩ := List.append_of_mem among
  have permits := permits_of_atEachWrite valid turn.atEachWrite turn.requested
  exact (permits.at_write before port time frame written later split).valid

/-- In no state and in no history is anything handed to a port that may not be. So the slave gets
valid frames under its own address, no resets, each called for by the frame of a master that was taken
last, and no frame for any port fails to be laid out. -/
theorem handed_is_permitted (lines : PerPort Line) (routing : Routing)
    (happenings : List Happening) :
    (∀ deadline mux, mux.routing = routing →
      ∃ contacts tale, Passage mux contacts tale (leftBy (step deadline mux)) ∧
        contacts.AtEachWrite fun before port frame =>
          routing.Permits (before.flatMap Contact.movements) port frame) ∧
    ∀ earlier port frame later,
      ((startingOn lines routing).behind happenings).story.filterMap Activity.movement?
        = earlier ++ .handed port frame :: later →
      routing.Permits earlier port frame := by
  constructor
  · rintro deadline mux rfl
    obtain ⟨contacts, tale, turn, passage⟩ := step_follows deadline mux
    exact ⟨contacts, tale, passage,
      permits_of_atEachWrite (givesValid_of_passage passage) turn.atEachWrite turn.requested⟩
  · intro earlier port frame later split
    obtain ⟨_, contacts, turns⟩ := recounts_startingOn lines routing happenings
    rw [turns.movements] at split
    obtain ⟨before, time, written, behind, whole, rfl⟩ := Contacts.exists_write_of_movements split
    have permits :=
      permits_of_atEachWrite turns.givesValid turns.atEachWrite turns.requested
    exact permits.at_write before port time frame written behind whole

/-! ## What every step keeps -/

/-- A frame that is selected is valid. -/
theorem validate_of_select {mux : Multiplexer}
    (selected : outcomeOf (select deadline mux) = .ok (some (port, frame))) :
    frame.validate = .ok () := by
  obtain ⟨contacts, tale, selection, passage⟩ := select_follows deadline mux
  rw [selected] at selection
  cases selection with
  | @taken _ _ _ now _ idling =>
    exact givesValid_of_passage passage (port, .poll now (.frame frame)) (by simp) frame rfl

/-- Whether a property of states is maintained as long as no write is told, is kept by the passage of time,
and is kept by handing over a valid frame. -/
structure Even (kept : Multiplexer → Prop) : Prop where
  maintained : Maintained (fun activity => activity.writes = false) kept
  passing : ∀ time mux, kept mux → kept (mux.atTime time)
  sending : ∀ port frame, frame.validate = .ok () → Keeps kept (send port frame)

/-- Whether a property of states is kept when a port is not listened to any more as well. -/
structure Steady (kept : Multiplexer → Prop) : Prop extends Even kept where
  deafening : ∀ port mux, kept mux → kept (mux.deafTo port)

section Kept

variable {kept : Multiplexer → Prop} {decision : Decision}

/-- Frames that are taken can be told. -/
theorem tellsTakings_unwritten : TellsTakings fun activity => activity.writes = false :=
  ⟨fun _ _ => rfl, fun _ => rfl, fun _ => rfl, fun _ _ => rfl⟩

/-- What is even is kept by dealing with a valid frame. -/
theorem Even.carryOut (even : Even kept) (valid : frame.validate = .ok ())
    (decided : routing.decide port frame = decision) :
    Keeps kept (carryOut deadline port frame decision) := by
  obtain ⟨maintained, passing, sending⟩ := even
  have acknowledging : Keeps kept (acknowledge port) := by
    apply (maintained.report rfl).bind
    intro _
    apply (sending port .single rfl).bind
    exact fun _ => maintained.report rfl
  cases decision with
  | acknowledge => exact acknowledging
  | acknowledgeSelection =>
    apply (maintained.report rfl).bind
    exact fun _ => acknowledging
  | forward request =>
    have validRequest := (Routing.admits_of_forward decided).2.validate valid
    rw [Multiplexer.carryOut, exchange_eq]
    apply (maintained.discardStale tellsTakings_unwritten).bind
    intro _
    apply (maintained.report rfl).bind
    intro _
    apply (sending .slave request validRequest).bind
    intro _
    apply maintained.answering passing
    · exact fun _ => rfl
    · exact fun _ => ⟨rfl, rfl⟩
    · intro reply validReply
      apply (sending port reply validReply).bind
      exact fun _ => maintained.report rfl
    · exact fun _ here => here
  | ignore => exact maintained.report rfl
  | reject => exact maintained.report rfl

/-- What is even is kept behind the wait for a frame, however the step goes on. -/
theorem Even.behind_select {mux : Multiplexer} (even : Even kept)
    (here : kept (leftBy (select deadline mux))) : kept (leftBy (step deadline mux)) := by
  cases selected : outcomeOf (select deadline mux) with
  | error halt =>
    rw [step_eq_halted selected]
    exact here
  | ok found =>
    cases found with
    | none =>
      rw [step_eq_idle selected]
      exact here
    | some taken =>
      obtain ⟨port, frame⟩ := taken
      rw [step_eq_carryOut selected]
      exact (even.carryOut (validate_of_select selected) rfl).left here

/-- What is steady is kept by every step. -/
theorem Steady.step (steady : Steady kept) (deadline : Nat) : Keeps kept (step deadline) := by
  apply Keeps.of_left
  intro mux here
  have upkept : Upkept (fun activity => activity.writes = false) kept :=
    { steady.maintained with deafening := steady.deafening }
  have selecting := upkept.select tellsTakings_unwritten steady.passing rfl deadline
  exact steady.behind_select (selecting.left here)

end Kept

end Multiplexer

end MeterBus
