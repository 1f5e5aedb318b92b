import MeterBus.Proofs.Proxy.Inventory
import MeterBus.Proofs.Proxy.Output

/-!
# Byte transparency

A step that forwards a request puts out bytes that it took in. Those that go out to the slave are the
bytes of the request on the line of the external master, or the short frame that the request of the local
master stands for. Those that go out to the master are the bytes of the reply on the line of the slave.
`Conveys` says so of the states before and behind the step, as long as no write has failed.
-/

namespace MeterBus

/-- Contacts that hand nothing over call no answer forth. -/
theorem Line.Undergoes.answers_of_silent {line after : Line} {contacts : List Contact}
    (undergoes : line.Undergoes contacts after)
    (silent : ∀ contact ∈ contacts, ∀ time frame written, contact ≠ .write time frame written) :
    after.answers = line.answers := by
  induction contacts generalizing line with
  | nil =>
    obtain rfl : after = line := undergoes
    rfl
  | cons contact others inductionHypothesis =>
    have silentThen : ∀ contact ∈ others, ∀ time frame written,
        contact ≠ .write time frame written :=
      fun contact among => silent contact (List.mem_cons_of_mem _ among)
    cases contact with
    | poll time answer =>
      have behind : after.answers = (line.poll time).2.1.answers :=
        inductionHypothesis undergoes.2 silentThen
      exact behind
    | wait start limit finish answer =>
      exact (inductionHypothesis undergoes.2.2 silentThen).trans (awaitAt_sending start line _).2
    | write time frame written => exact absurd rfl (silent _ (List.mem_cons_self ..) time frame written)

/-- The bytes of a request are those of the frame of the external master that calls for it, or those of the
short frame with the control byte that the local master gives. -/
theorem Routing.CallsFor.layout {routing : Routing} {request frame : Frame} {origin : Port}
    (called : routing.CallsFor request origin frame) :
    (origin = .externalMaster → frame.layout = request.layout) ∧
      (origin = .localMaster → ∃ control, frame = .short control routing.localAddress ∧
        request.layout
          = [0x10, control, routing.slaveAddress, control + routing.slaveAddress, 0x16]) := by
  cases called with
  | external => exact ⟨fun _ => rfl, nofun⟩
  | @«local» control rewritten =>
    refine ⟨nofun, fun _ => ⟨control, rfl, ?_⟩⟩
    rw [rewritten]
    simp [Frame.layout, Frame.opening, Frame.body, Frame.closing, checksum, shortStart, stopByte]

namespace Multiplexer

variable {routing : Routing} {mux chosen after : Multiplexer} {contacts : Contacts}
  {tale : List Activity} {origin port : Port} {frame request : Frame} {deadline : Nat}
  {timeout now : Nat} {outcome : Except Halt Unit}

/-- The bytes that go out in a step that forwards a request of a master, from the state before it, over the
state in which the request was taken, to the state behind it. -/
structure Conveys (routing : Routing) (origin : Port) (frame : Frame)
    (mux chosen after : Multiplexer) (contacts : Contacts) (outcome : Except Halt Unit) :
    Prop where
  /-- Nothing goes out to the other master. -/
  bystander : ∀ port, port ≠ .slave → port ≠ origin → after.output port = mux.output port
  /-- Only where the slave cannot be read, no request is handed to it, and nothing goes out to it. -/
  unasked : contacts.handedTo .slave = [] → after.output .slave = mux.output .slave ∧
    (outcome = .error (.failed (.portClosed .slave)) ∨
      ∃ cause, outcome = .error (.failed (.read .slave cause)))
  /-- To the slave go the bytes that were next on the line of the external master, or the short frame
  with the control byte of the local master and the address of the slave. -/
  asked : contacts.handedTo .slave ≠ [] → ∃ bytes,
    after.output .slave = mux.output .slave ++ bytes ∧
    (origin = .externalMaster →
      mux.lines.externalMaster.intake.ahead = bytes ++ chosen.lines.externalMaster.intake.ahead) ∧
    (origin = .localMaster → ∃ control, frame = .short control routing.localAddress ∧
      bytes = [0x10, control, routing.slaveAddress, control + routing.slaveAddress, 0x16])
  /-- Where no reply is handed to the master, nothing goes out to it. -/
  unanswered : contacts.handedTo origin = [] → after.output origin = mux.output origin
  /-- To the master go the bytes of the last frame that was taken off the line of the slave. -/
  answered : contacts.handedTo origin ≠ [] → ∃ dropped reply bytes,
    contacts.handedTo origin = [reply] ∧ contacts.takenFrom .slave = dropped ++ [reply] ∧
    after.output origin = mux.output origin ++ bytes ∧
    chosen.lines.slave.intake.ahead ++ chosen.lines.slave.calledForth after.lines.slave
      = dropped.flatMap Frame.layout ++ bytes ++ after.lines.slave.intake.ahead

/-- What is taken off the line of the slave for a request is what is dropped, and the reply. -/
theorem Consultation.taken {stale replies : List Frame} {slave : List Contact}
    (consultation : Consultation timeout deadline now request stale slave outcome replies) :
    (Contacts.on .slave slave).takenFrom .slave = stale ++ replies := by
  have takings : Poll.frames ((Contact.takings now stale).map Contact.answer) = stale := by
    rw [Contact.takings, List.map_map, Poll.frames, List.filterMap_map]
    exact List.filterMap_some
  rw [Contacts.takenFrom_eq, Contacts.withPort_on, if_pos rfl]
  cases consultation with
  | @unanswered _ _ answer _ frameless =>
    have nothing : answer.frame? = none := by
      cases answer with
      | frame frame => exact absurd rfl (frameless frame)
      | _ => rfl
    have pending : Poll.pending.frame? = none := rfl
    simp [takings, Poll.frames_cons, Contact.answer, nothing, pending]
  | _ => simp [takings, Poll.frames_cons, Contact.answer, Poll.frame?]

/-- What is taken off the line of the slave in an exchange is what is dropped, and the reply. -/
theorem Consults.taken {stale replies : List Frame} (distinct : origin ≠ .slave)
    (consults : Consults timeout deadline now origin request stale replies contacts tale outcome) :
    contacts.takenFrom .slave = stale ++ replies := by
  obtain ⟨slave, time, written, consultation, split⟩ := consults.order
  rw [Contacts.takenFrom_eq, withPort_slave distinct split, ← consultation.taken,
    Contacts.takenFrom_eq, Contacts.withPort_on, if_pos rfl]

/-- No request is handed to the slave only where the slave cannot be read. -/
theorem Consults.unread {stale replies : List Frame} (distinct : origin ≠ .slave)
    (consults : Consults timeout deadline now origin request stale replies contacts tale outcome)
    (unasked : contacts.handedTo .slave = []) :
    outcome = .error (.failed (.portClosed .slave)) ∨
      ∃ cause, outcome = .error (.failed (.read .slave cause)) := by
  obtain ⟨slave, time, written, consultation, split⟩ := consults.order
  have unwritten (done : Except LinkError (List UInt8)) : .write now request done ∉ slave := by
    intro among
    rw [← withPort_slave distinct split, Contacts.mem_withPort] at among
    rw [Contacts.handedTo, List.filterMap_filterMap, List.filterMap_eq_nil_iff] at unasked
    simpa [Contact.handed?] using unasked _ among
  cases consultation with
  | ended => exact .inl rfl
  | unreadable => exact .inr ⟨_, rfl⟩
  | @unwritten cause => exact absurd (by simp) (unwritten (.error cause))
  | @unanswered bytes => exact absurd (by simp) (unwritten (.ok bytes))
  | @answered bytes => exact absurd (by simp) (unwritten (.ok bytes))

/-- There is one reply at most. -/
theorem Consults.single {stale replies : List Frame} (some : replies ≠ [])
    (consults : Consults timeout deadline now origin request stale replies contacts tale outcome) :
    ∃ reply, replies = [reply] := by
  obtain ⟨slave, time, written, consultation, split⟩ := consults.order
  cases consultation with
  | answered => exact ⟨_, rfl⟩
  | _ => exact absurd rfl some

/-- What is handed over for a request: the request to the slave at most, and the reply to the master. -/
theorem Exchange.handedTo (distinct : origin ≠ .slave)
    (exchange : Exchange timeout deadline now origin request contacts tale outcome) :
    (contacts.handedTo .slave ≠ [] → contacts.handedTo .slave = [request]) ∧
      ∀ port, port ≠ .slave → port ≠ origin → contacts.handedTo port = [] := by
  obtain ⟨reply, handed⟩ := exchange.handed
  have toPort (port : Port) : (contacts.handedTo port).Sublist
      ([(.slave, request), (origin, reply)].filterMap fun handing =>
        if handing.1 = port then some handing.2 else none) := handed.filterMap _
  constructor
  · intro some
    have toSlave : (contacts.handedTo .slave).Sublist [request] := by
      simpa [distinct] using toPort .slave
    rcases List.sublist_singleton.1 toSlave with none | one
    · exact absurd none some
    · exact one
  · intro port notSlave notOrigin
    simpa [Ne.symm notSlave, Ne.symm notOrigin] using toPort port

/-- The frame that is selected is taken off the front of what is ahead on the line of its port. -/
theorem ahead_of_selection (strict : (mux.lines.get origin).reader.Strict)
    (selection : Selection contacts tale (.ok (some (origin, frame))))
    (passage : Passage mux contacts tale chosen) :
    (mux.lines.get origin).intake.ahead
      = frame.layout ++ (chosen.lines.get origin).intake.ahead := by
  have accounts := passage.accounts strict
  have taken : contacts.takenFrom origin = [frame] := by
    cases selection with
    | taken idling => simp [Contacts.takenFrom, idling.untaken, Contact.received?]
  have uncalled : (mux.lines.get origin).calledForth (chosen.lines.get origin) = [] := by
    apply Line.calledForth_of_eq
    apply (passage.lines origin).answers_of_silent
    rintro contact among time other written rfl
    have silent := selection.silent
    rw [List.filterMap_eq_nil_iff] at silent
    cases silent _ (Contacts.mem_withPort.1 among)
  have split := accounts.ahead.eq_append
  rw [uncalled, List.append_nil, taken] at split
  simpa using split

/-- In every state that is reached, a step that forwards a request conveys bytes, if no write fails up to
its end. -/
theorem bytes_are_transparent (reached : Reached routing mux)
    (selected : outcomeOf (select deadline mux) = .ok (some (origin, frame)))
    (decided : routing.decide origin frame = .forward request)
    (unfailing : (leftBy (step deadline mux)).Unfailing) :
    let chosen := leftBy (select deadline mux)
    let after := leftBy (step deadline mux)
    ∃ contacts tale, Passage chosen contacts tale after ∧
      Conveys routing origin frame mux chosen after contacts (outcomeOf (step deadline mux)) := by
  intro chosen after
  have distinct := master_of_forward decided
  obtain ⟨waiting, told, selection, choosing⟩ := select_follows deadline mux
  rw [selected] at selection
  have sound := reached.sound.of_passage choosing
  obtain ⟨contacts, tale, course, exchanging⟩ := exchange_follows deadline origin request chosen
  rw [← step_eq_exchange reached.sound.rules selected decided] at course exchanging
  have whole : Passage mux (waiting ++ contacts) (told ++ tale) after := choosing.trans exchanging
  have turn : Turn routing deadline (.ok (some (origin, frame))) (waiting ++ contacts)
      (told ++ tale) (outcomeOf (step deadline mux)) := by
    apply Turn.handled selection
    rw [decided]
    rw [sound.rules] at course
    exact .forwarded course
  -- nothing is handed over while a frame is waited for
  have output (port : Port) : after.output port
      = mux.output port ++ (contacts.handedTo port).flatMap Frame.layout := by
    have handed : (waiting ++ contacts).handedTo port = contacts.handedTo port := by
      rw [Contacts.handedTo_append, Contacts.handedTo_of_silent port selection.silent]
      rfl
    rw [← handed]
    apply reached.output_step unfailing whole
    exact fun _ _ _ _ => turn.validate (givesValid_of_passage whole)
  have quiet {port : Port} (none : contacts.handedTo port = []) :
      after.output port = mux.output port := by
    rw [output, none]
    exact List.append_nil _
  obtain ⟨_, called⟩ := Routing.admits_of_forward decided
  obtain ⟨toSlave, toOthers⟩ := course.handedTo distinct
  obtain ⟨stale, replies, consults⟩ := course.consults
  refine ⟨contacts, tale, exchanging, ?_⟩
  constructor
  · exact fun port notSlave notOrigin => quiet (toOthers port notSlave notOrigin)
  · exact fun none => ⟨quiet none, consults.unread distinct none⟩
  · intro some
    refine ⟨request.layout, ?_, ?_, called.layout.2⟩
    · rw [output, toSlave some, List.flatMap_singleton]
    · rintro rfl
      rw [← called.layout.1 rfl]
      exact ahead_of_selection (reached.sound.strict .externalMaster) selection choosing
  · exact quiet
  · intro some
    rw [consults.relayed distinct] at some
    obtain ⟨reply, rfl⟩ := consults.single some
    have accounts := exchanging.accounts (sound.strict .slave)
    rw [consults.taken distinct] at accounts
    refine ⟨stale, reply, reply.layout, consults.relayed distinct, consults.taken distinct, ?_, ?_⟩
    · rw [output, consults.relayed distinct, List.flatMap_singleton]
    · have split := accounts.ahead.eq_append
      rw [List.flatMap_append, List.flatMap_singleton] at split
      exact split

/-- Behind a late reply, a further request is forwarded, and its bytes go out to the slave. The reply that
came too late is dropped, and the bytes of the one behind it go out to the master. -/
theorem bytes_are_transparent_behind_lateReply :
    let mux := (fresh .standard).behind lateReply
    let deadline := mux.now + 3600000
    let chosen := leftBy (select deadline mux)
    let after := leftBy (step deadline mux)
    (∃ contacts tale, Passage chosen contacts tale after ∧
      Conveys .standard .externalMaster (.short 0x7B 0x5A) mux chosen after contacts
        (outcomeOf (step deadline mux))) ∧
      after.output .slave = mux.output .slave ++ [0x10, 0x7B, 0x5A, 0xD5, 0x16] ∧
      after.output .externalMaster = mux.output .externalMaster
        ++ [0x68, 4, 4, 0x68, 0x08, 0x5A, 0x72, 0x3D, 0x11, 0x16] := by
  intro mux deadline chosen after
  have reached : Reached .standard mux := Reached.fresh.behind lateReply
  have selected : outcomeOf (select deadline mux)
      = .ok (some (.externalMaster, .short 0x7B 0x5A)) := by
    decide +kernel
  have decided : Routing.standard.decide .externalMaster (.short 0x7B 0x5A)
      = .forward (.short 0x7B 0x5A) := by
    decide +kernel
  have unfailing : after.Unfailing := by decide +kernel
  exact ⟨bytes_are_transparent reached selected decided unfailing, by decide +kernel,
    by decide +kernel⟩

end Multiplexer

end MeterBus
