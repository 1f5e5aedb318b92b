import MeterBus.Proofs.Proxy.Passage

/-!
# The course of an exchange

`Exchange` lists the ways in which asking the slave for a master can go: what is done with the lines
of the slave and of the master, in this order, what is told of it, and what it comes to.
`exchange_follows` says that there are no others.
-/

namespace MeterBus.Multiplexer

/-! ## States behind elementary proceedings -/

/-- The state behind a poll of a port. -/
def polling (port : Port) (mux : Multiplexer) : Multiplexer :=
  let polled := (mux.lines.get port).poll mux.now
  (mux.setLine port polled.2.1).noteCodec port polled.2.2

/-- What handing a frame to a port gives and leaves. -/
def offer (port : Port) (frame : Frame) (mux : Multiplexer) : Line.Sent :=
  (mux.lines.get port).send mux.now frame

/-- The state behind handing a frame to a port, before it is told whether it was written. -/
def offering (port : Port) (frame : Frame) (mux : Multiplexer) : Multiplexer :=
  let sent := mux.offer port frame
  ((mux.setLine port sent.line).noteRelief port sent.relieved).noteCodec port sent.events

/-- What the slave has ready. -/
def ready (mux : Multiplexer) : Line.Ready :=
  mux.lines.slave.readyFrames mux.now

/-- The state behind taking what the slave has ready. -/
def checking (mux : Multiplexer) : Multiplexer :=
  ((mux.setLine .slave mux.ready.line).noteStale mux.ready.frames).noteCodec .slave mux.ready.events

/-- What waiting for the slave gives and leaves. -/
def awaited (limit : Nat) (mux : Multiplexer) : Line.Awaited :=
  mux.lines.slave.await mux.now limit

/-- The state behind waiting for the slave. -/
def awaiting (limit : Nat) (mux : Multiplexer) : Multiplexer :=
  let awaited := mux.awaited limit
  let time := if awaited.poll = .pending then limit else awaited.time
  ((mux.setLine .slave awaited.line).atTime time).noteCodec .slave awaited.events

variable {mux : Multiplexer} {port : Port} {frame : Frame} {limit : Nat}

theorem discardStale_eq : discardStale mux = (match mux.ready.last with
    | .failure cause => fail (.read .slave cause)
    | .ended => fail (.portClosed .slave)
    | _ => pure ()) mux.checking := rfl

/-- What comes of handing a frame to a port, when this was written. -/
def concluding (port : Port) (frame : Frame) : Except LinkError (List UInt8) → Proceeding Unit
  | .ok written => report (.sent port frame written)
  | .error cause => fail (.write port cause)

theorem send_eq : send port frame mux
    = concluding port frame (mux.offer port frame).written (mux.offering port frame) := rfl

theorem send_eq_of_ok {written : List UInt8} (sent : (mux.offer port frame).written = .ok written) :
    send port frame mux = .ok () ((mux.offering port frame).note (.sent port frame written)) := by
  rw [send_eq, sent]
  rfl

theorem send_eq_of_error {cause : LinkError} (unsent : (mux.offer port frame).written = .error cause) :
    send port frame mux = .error (.failed (.write port cause)) (mux.offering port frame) := by
  rw [send_eq, unsent]
  rfl

/-- A poll changes the line of its port only. -/
theorem sameButTrace_polling : SameButTrace (mux.setLine port ((mux.lines.get port).poll mux.now).2.1)
    (mux.polling port) :=
  sameButTrace_noteCodec ..

/-- Handing over a frame changes the line of its port only. -/
theorem sameButTrace_offering :
    SameButTrace (mux.setLine port (mux.offer port frame).line) (mux.offering port frame) :=
  (sameButTrace_noteRelief ..).trans (sameButTrace_noteCodec ..)

/-- Taking what the slave has ready changes its line only. -/
theorem sameButTrace_checking :
    SameButTrace (mux.setLine .slave mux.ready.line) mux.checking :=
  (sameButTrace_noteStale ..).trans (sameButTrace_noteCodec ..)

/-- Waiting for the slave changes its line and the time only. -/
theorem sameButTrace_awaiting :
    SameButTrace ((mux.setLine .slave (mux.awaited limit).line).atTime
      (if (mux.awaited limit).poll = .pending then limit else (mux.awaited limit).time))
      (mux.awaiting limit) :=
  sameButTrace_noteCodec ..

/-! ## Courses -/

/-- How announcing a frame, handing it to a port and telling that this is done can go. -/
inductive Handover (announcement : Activity) (port : Port) (frame : Frame) (done : List Activity)
    (now : Nat) : Contacts → List Activity → Except Halt Unit → Prop where
  /-- The frame is written. -/
  | written {bytes} :
      Handover announcement port frame done now (.on port [.write now frame (.ok bytes)])
        (announcement :: .sent port frame bytes :: done) (.ok ())
  /-- The frame cannot be written. -/
  | unwritten {cause} :
      Handover announcement port frame done now (.on port [.write now frame (.error cause)])
        [announcement] (.error (.failed (.write port cause)))

/-- How dropping what the slave has ready can go: frames are taken one after the other until a poll
gives none. -/
inductive Check (now : Nat) : Contacts → List Activity → Except Halt Unit → Prop where
  /-- The slave has nothing more to give at once. -/
  | clear {stale} :
      Check now (.on .slave (Contact.takings now stale ++ [.poll now .pending]))
        (stale.flatMap Activity.dropping) (.ok ())
  /-- The slave has ended. -/
  | ended {stale} :
      Check now (.on .slave (Contact.takings now stale ++ [.poll now .ended]))
        (stale.flatMap Activity.dropping) (.error (.failed (.portClosed .slave)))
  /-- The slave cannot be read. -/
  | unreadable {stale cause} :
      Check now (.on .slave (Contact.takings now stale ++ [.poll now (.failure cause)]))
        (stale.flatMap Activity.dropping) (.error (.failed (.read .slave cause)))

/-- How waiting for the answer to a request can go, and relaying it to the master. -/
inductive Answering (timeout deadline now : Nat) (origin : Port) :
    Contacts → List Activity → Except Halt Unit → Prop where
  /-- The slave does not answer within its time. -/
  | timedOut {finish} (inTime : now + timeout ≤ deadline) :
      Answering timeout deadline now origin
        (.on .slave [.wait now (min (now + timeout) deadline) finish .pending])
        [.timedOut origin timeout] (.ok ())
  /-- The caller gives up before the slave answers. -/
  | abandoned {finish} (late : deadline < now + timeout) :
      Answering timeout deadline now origin
        (.on .slave [.wait now (min (now + timeout) deadline) finish .pending])
        [] (.error .abandoned)
  /-- The slave ends. -/
  | ended {finish} :
      Answering timeout deadline now origin
        (.on .slave [.wait now (min (now + timeout) deadline) finish .ended])
        [] (.error (.failed (.portClosed .slave)))
  /-- The slave cannot be read. -/
  | unreadable {finish cause} :
      Answering timeout deadline now origin
        (.on .slave [.wait now (min (now + timeout) deadline) finish (.failure cause)])
        [] (.error (.failed (.read .slave cause)))
  /-- The slave answers, and its answer is handed to the master. -/
  | answered {finish reply contacts tale outcome}
      (handover : Handover (.relaying reply origin) origin reply [.relayed origin] finish contacts
        tale outcome) :
      Answering timeout deadline now origin
        (.on .slave [.wait now (min (now + timeout) deadline) finish (.frame reply)] ++ contacts)
        (.received .slave reply :: tale) outcome

/-- How asking the slave for a master can go. -/
inductive Exchange (timeout deadline now : Nat) (origin : Port) (request : Frame) :
    Contacts → List Activity → Except Halt Unit → Prop where
  /-- The slave turns out to have ended or failed. -/
  | unchecked {contacts tale halt} (check : Check now contacts tale (.error halt)) :
      Exchange timeout deadline now origin request contacts tale (.error halt)
  /-- The request cannot be written. -/
  | unasked {contacts tale later more halt} (check : Check now contacts tale (.ok ()))
      (handover : Handover (.forwarding request origin) .slave request [] now later more
        (.error halt)) :
      Exchange timeout deadline now origin request (contacts ++ later) (tale ++ more) (.error halt)
  /-- The request is written, and the slave is waited for. -/
  | asked {contacts tale later more rest others outcome} (check : Check now contacts tale (.ok ()))
      (handover : Handover (.forwarding request origin) .slave request [] now later more
        (.ok ()))
      (answering : Answering timeout deadline now origin rest others outcome) :
      Exchange timeout deadline now origin request (contacts ++ (later ++ rest))
        (tale ++ (more ++ others)) outcome

/-! ## Proceedings follow their courses -/

/-- Dropping what the slave has ready follows its course. -/
theorem discardStale_follows (mux : Multiplexer) :
    Follows (Check mux.now) mux (discardStale mux) := by
  obtain ⟨undergoes, frameless⟩ := Line.readyFrames_undergoes mux.now mux.lines.slave
  have undergoes : (mux.lines.get .slave).Undergoes
      (Contact.takings mux.now (mux.ready.frames.map (·.1)) ++ [.poll mux.now mux.ready.last])
      mux.ready.line := undergoes
  have unmoving : Contact.movements (.slave, .poll mux.now mux.ready.last) = [] := by
    cases last : mux.ready.last with
    | frame frame => exact absurd last (frameless frame)
    | _ => rfl
  have passage : Passage mux
      (.on .slave (Contact.takings mux.now (mux.ready.frames.map (·.1))
        ++ [.poll mux.now mux.ready.last]))
      ((mux.ready.frames.map (·.1)).flatMap Activity.dropping) mux.checking := by
    apply Passage.of_contacts undergoes
    · exact sameButTrace_checking.lines
    · exact sameButTrace_checking.routing
    · simp [checking, story_noteStale]
    · simp [unmoving]
  rw [discardStale_eq]
  cases last : mux.ready.last with
  | pending =>
    rw [last] at passage
    exact ⟨_, _, .clear, passage⟩
  | ended =>
    rw [last] at passage
    exact ⟨_, _, .ended, passage⟩
  | failure cause =>
    rw [last] at passage
    exact ⟨_, _, .unreadable, passage⟩
  | frame frame => exact absurd last (frameless frame)

/-- Handing an announced frame to a port follows its course. -/
theorem send_follows {announcement : Activity} (mux : Multiplexer)
    (announces : announcement.Announces port frame) :
    Follows (Handover announcement port frame [] mux.now) mux
      (send port frame (mux.note announcement)) := by
  have undergoes (written : Except LinkError (List UInt8))
      (result : ((mux.note announcement).offer port frame).written = written) :
      (mux.lines.get port).Undergoes [.write mux.now frame written]
        ((mux.note announcement).offer port frame).line := ⟨result, rfl⟩
  have told : ((mux.note announcement).offering port frame).story = mux.story ++ [announcement] := by
    simp [offering, story_note_of_isOwn mux announces.own]
  cases result : ((mux.note announcement).offer port frame).written with
  | ok bytes =>
    rw [send_eq_of_ok result]
    have passage : Passage mux (.on port [.write mux.now frame (.ok bytes)])
        [announcement, .sent port frame bytes]
        (((mux.note announcement).offering port frame).note (.sent port frame bytes)) := by
      apply Passage.of_contacts (undergoes _ result)
      · exact sameButTrace_offering.lines
      · exact sameButTrace_offering.routing
      · rw [story_note_of_isOwn _ rfl, told, List.append_assoc]
        rfl
      · rw [List.filterMap_cons_some announces.handed]
        rfl
    exact ⟨_, _, .written, passage⟩
  | error cause =>
    rw [send_eq_of_error result]
    have passage : Passage mux (.on port [.write mux.now frame (.error cause)]) [announcement]
        ((mux.note announcement).offering port frame) := by
      apply Passage.of_contacts (undergoes _ result)
      · exact sameButTrace_offering.lines
      · exact sameButTrace_offering.routing
      · exact told
      · rw [List.filterMap_cons_some announces.handed]
        rfl
    exact ⟨_, _, .unwritten, passage⟩

/-- Handing over a frame and telling that this is done follows its course. -/
theorem send_report_follows {announcement done : Activity} (mux : Multiplexer)
    (announces : announcement.Announces port frame) (remark : done.IsRemark) :
    Follows (Handover announcement port frame [done] mux.now) mux
      ((send port frame >>= fun _ => report done) (mux.note announcement)) := by
  apply Follows.bind (send_follows mux announces)
  · intro contacts tale halt handover
    cases handover with
    | unwritten => exact .unwritten
  · intro contacts tale value middle handover _ _
    cases handover with
    | written => exact ⟨_, _, .written, .told middle remark⟩

/-- Waits for the answer of the slave and relays it: the part of an exchange behind the request. -/
def answering (deadline : Nat) (origin : Port) : Proceeding Unit := do
  let mux ← get
  let timeout := mux.routing.responseTimeout
  match ← awaitSlave (min (mux.now + timeout) deadline) with
  | .pending =>
    if mux.now + timeout ≤ deadline then report (.timedOut origin timeout)
    else throw .abandoned
  | .ended => fail (.portClosed .slave)
  | .failure cause => fail (.read .slave cause)
  | .frame reply =>
    report (.received .slave reply)
    report (.relaying reply origin)
    send origin reply
    report (.relayed origin)

theorem exchange_eq (deadline : Nat) (origin : Port) (request : Frame) :
    exchange deadline origin request = (do
      discardStale
      report (.forwarding request origin)
      send .slave request
      answering deadline origin) := rfl

/-- Deals with what the slave gave to the wait for its answer, which began in this state. -/
def resolving (deadline : Nat) (origin : Port) (asked : Multiplexer) : Poll → Proceeding Unit
  | .pending =>
    if asked.now + asked.routing.responseTimeout ≤ deadline then
      report (.timedOut origin asked.routing.responseTimeout)
    else throw Halt.abandoned
  | .ended => fail (.portClosed .slave)
  | .failure cause => fail (.read .slave cause)
  | .frame reply => do
    report (.received .slave reply)
    report (.relaying reply origin)
    send origin reply
    report (.relayed origin)

theorem answering_eq (deadline : Nat) (origin : Port) (asked : Multiplexer) :
    answering deadline origin asked = resolving deadline origin asked
      (asked.awaited (min (asked.now + asked.routing.responseTimeout) deadline)).poll
      (asked.awaiting (min (asked.now + asked.routing.responseTimeout) deadline)) := rfl

/-- A wait that gives no frame changes the line of the slave, and nothing is told of it. -/
theorem awaiting_passage {mux : Multiplexer} {answer : Poll}
    (given : (mux.awaited limit).poll = answer) (frameless : ∀ reply, answer ≠ .frame reply) :
    Passage mux (.on .slave [.wait mux.now limit (mux.awaited limit).time answer]) []
      (mux.awaiting limit) := by
  have undergoes : (mux.lines.get .slave).Undergoes
      [.wait mux.now limit (mux.awaited limit).time answer] (mux.awaited limit).line :=
    ⟨given, rfl, rfl⟩
  apply Passage.of_listening undergoes
  · exact sameButTrace_awaiting.lines
  · exact sameButTrace_awaiting.routing
  · simp [awaiting]
  · cases answer with
    | frame reply => exact absurd rfl (frameless reply)
    | _ => rfl

/-- A wait that gives an answer takes it off the line of the slave, and ends when it does. -/
theorem awaiting_passage_of_frame {mux : Multiplexer} {reply : Frame}
    (given : (mux.awaited limit).poll = .frame reply) :
    Passage mux (.on .slave [.wait mux.now limit (mux.awaited limit).time (.frame reply)])
        [.received .slave reply] ((mux.awaiting limit).note (.received .slave reply)) ∧
      (mux.awaiting limit).now = (mux.awaited limit).time := by
  have undergoes : (mux.lines.get .slave).Undergoes
      [.wait mux.now limit (mux.awaited limit).time (.frame reply)] (mux.awaited limit).line :=
    ⟨given, rfl, rfl⟩
  constructor
  · apply Passage.of_taking undergoes
    · exact sameButTrace_awaiting.lines
    · exact sameButTrace_awaiting.routing
    · simp [awaiting]
    · rfl
  · rw [sameButTrace_awaiting.now, given]
    rfl

/-- Waiting for the answer and relaying it follows its course. -/
theorem answering_follows (deadline : Nat) (origin : Port) (mux : Multiplexer) :
    Follows (Answering mux.routing.responseTimeout deadline mux.now origin) mux
      (answering deadline origin mux) := by
  rw [answering_eq]
  unfold resolving
  cases given : (mux.awaited (min (mux.now + mux.routing.responseTimeout) deadline)).poll with
  | pending =>
    have waiting := awaiting_passage given (by simp)
    split
    · next inTime =>
      exact ⟨_, _, .timedOut inTime, waiting.trans (.told _ ⟨rfl, rfl⟩)⟩
    · next late => exact ⟨_, _, .abandoned (Nat.lt_of_not_le late), waiting⟩
  | ended => exact ⟨_, _, .ended, awaiting_passage given (by simp)⟩
  | failure cause => exact ⟨_, _, .unreadable, awaiting_passage given (by simp)⟩
  | frame reply =>
    obtain ⟨taking, finish⟩ := awaiting_passage_of_frame given
    apply Follows.of_passage taking
    have announces : (Activity.relaying reply origin).Announces origin reply := ⟨rfl, rfl⟩
    have remark : (Activity.relayed origin).IsRemark := ⟨rfl, rfl⟩
    obtain ⟨contacts, tale, handover, passage⟩ := send_report_follows
      ((mux.awaiting (min (mux.now + mux.routing.responseTimeout) deadline)).note
        (.received .slave reply)) announces remark
    rw [show ((mux.awaiting _).note _).now = _ from finish] at handover
    exact ⟨contacts, tale, .answered handover, passage⟩

/-- Dropping what the slave has ready takes no time. -/
theorem now_discardStale {value : Unit} {after : Multiplexer}
    (result : discardStale mux = .ok value after) : after.now = mux.now := by
  have left : leftBy (discardStale mux) = mux.checking := by
    rw [discardStale_eq]
    cases mux.ready.last <;> rfl
  rw [result] at left
  rw [show after = mux.checking from left]
  exact sameButTrace_checking.now

/-- Handing over a frame takes no time. -/
theorem now_send {value : Unit} {after : Multiplexer}
    (result : send port frame mux = .ok value after) : after.now = mux.now := by
  cases written : (mux.offer port frame).written with
  | ok bytes =>
    rw [send_eq_of_ok written] at result
    cases result
    exact sameButTrace_offering.now
  | error cause =>
    rw [send_eq_of_error written] at result
    cases result

/-- Asking the slave for a master follows its course. -/
theorem exchange_follows (deadline : Nat) (origin : Port) (request : Frame) (mux : Multiplexer) :
    Follows (Exchange mux.routing.responseTimeout deadline mux.now origin request) mux
      (exchange deadline origin request mux) := by
  rw [exchange_eq]
  apply Follows.bind (discardStale_follows mux)
  · intro contacts tale halt check
    exact .unchecked check
  · intro contacts tale _ checked check checking result
    have announces : (Activity.forwarding request origin).Announces .slave request :=
      ⟨rfl, rfl⟩
    have now : checked.now = mux.now := now_discardStale result
    have asking := send_follows checked announces
    rw [now] at asking
    apply Follows.bind asking
    · intro later more halt handover
      exact .unasked check handover
    · intro later more _ asked handover sending resultThen
      have nowThen : asked.now = mux.now := (now_send resultThen).trans now
      obtain ⟨rest, others, answering, passage⟩ := answering_follows deadline origin asked
      rw [sending.routing, checking.routing, nowThen] at answering
      exact ⟨rest, others, .asked check handover answering, passage⟩

end MeterBus.Multiplexer
