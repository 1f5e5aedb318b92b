import MeterBus.Proofs.Proxy.Provenance
import MeterBus.Proofs.Proxy.Reached

/-!
# What is relayed

A step that forwards a request consults the slave in a fixed order: it takes off what is ready, finds
nothing more, writes the request, and waits once. `Consultation` lists what can come of each of these
contacts, and `Forwards` what the whole step comes to.

What the slave gives to the wait is relayed. It is not among the frames that the slave had delivered
before, but it may begin with bytes that had been: only whole frames are dropped. In the history
`straddlingReply` it does.
-/

namespace MeterBus

namespace Multiplexer

/-- The contacts with the slave for a request, when so many frames were ready that came too late, and
the frame that answers the request, if there is one. -/
inductive Consultation (timeout deadline now : Nat) (request : Frame) (stale : List Frame) :
    List Contact → Except Halt Unit → List Frame → Prop where
  /-- A poll meets the end of the slave, and nothing is written. -/
  | ended : Consultation timeout deadline now request stale
      (Contact.takings now stale ++ [.poll now .ended]) (.error (.failed (.portClosed .slave))) []
  /-- A poll fails, and nothing is written. -/
  | unreadable {cause} : Consultation timeout deadline now request stale
      (Contact.takings now stale ++ [.poll now (.failure cause)])
      (.error (.failed (.read .slave cause))) []
  /-- A poll gives nothing, and the request cannot be written. -/
  | unwritten {cause} : Consultation timeout deadline now request stale
      (Contact.takings now stale ++ [.poll now .pending] ++ [.write now request (.error cause)])
      (.error (.failed (.write .slave cause))) []
  /-- A poll gives nothing, the request is written, and the wait behind it gives no frame. -/
  | unanswered {bytes finish answer outcome} (frameless : ∀ frame, answer ≠ .frame frame) :
      Consultation timeout deadline now request stale
        (Contact.takings now stale ++ [.poll now .pending] ++ [.write now request (.ok bytes),
          .wait now (min (now + timeout) deadline) finish answer]) outcome []
  /-- A poll gives nothing, the request is written, and the wait behind it gives a frame. -/
  | answered {bytes finish reply outcome} : Consultation timeout deadline now request stale
      (Contact.takings now stale ++ [.poll now .pending] ++ [.write now request (.ok bytes),
        .wait now (min (now + timeout) deadline) finish (.frame reply)]) outcome [reply]

variable {timeout deadline now : Nat} {origin : Port} {request : Frame} {contacts : Contacts}
  {tale : List Activity} {outcome : Except Halt Unit}

/-- What is done with the lines for a request of a master: the slave is consulted, its reply is handed
to the master once, and that is all. -/
structure Consults (timeout deadline now : Nat) (origin : Port) (request : Frame)
    (stale replies : List Frame) (contacts : Contacts) (tale : List Activity)
    (outcome : Except Halt Unit) : Prop where
  order : ∃ slave time written,
    Consultation timeout deadline now request stale slave outcome replies ∧
    contacts = .on .slave slave ++ .on origin (replies.map fun reply => .write time reply written)
  /-- Every frame of the slave is counted once. -/
  received : Port.slave.receivedCounter.tally tale = stale.length + replies.length
  /-- Every frame that came too late is counted once. -/
  unexpected : Port.slave.unexpectedCounter.tally tale = stale.length

/-- Frames that came too late are counted once as received and once as unexpected. -/
theorem tally_dropping (stale : List Frame) :
    Port.slave.receivedCounter.tally (stale.flatMap Activity.dropping) = stale.length ∧
      Port.slave.unexpectedCounter.tally (stale.flatMap Activity.dropping) = stale.length := by
  induction stale with
  | nil => exact ⟨rfl, rfl⟩
  | cons frame stale inductionHypothesis =>
    obtain ⟨received, unexpected⟩ := inductionHypothesis
    rw [List.flatMap_cons, Counter.tally_append, Counter.tally_append, received, unexpected]
    simp [Activity.dropping, Activity.counter?, Nat.add_comm]

/-- The slave is consulted, and gives no reply. -/
theorem Consults.of_slave {stale : List Frame} {contacts : List Contact} {more : List Activity}
    (consultation : Consultation timeout deadline now request stale contacts outcome [])
    (told : tale = stale.flatMap Activity.dropping ++ more)
    (received : Port.slave.receivedCounter.tally more = 0)
    (unexpected : Port.slave.unexpectedCounter.tally more = 0) :
    Consults timeout deadline now origin request stale [] (.on .slave contacts) tale outcome := by
  obtain ⟨receivedStale, unexpectedStale⟩ := tally_dropping stale
  constructor
  · exact ⟨contacts, 0, .ok [], consultation, by simp⟩
  · rw [told, Counter.tally_append, received, receivedStale]
    rfl
  · rw [told, Counter.tally_append, unexpected, unexpectedStale]
    rfl

/-- The slave is consulted, and its reply is handed to the master. -/
theorem Consults.of_reply {stale : List Frame} {contacts : List Contact} {more : List Activity}
    {reply : Frame} {time : Nat} {written : Except LinkError (List UInt8)}
    (consultation : Consultation timeout deadline now request stale contacts outcome [reply])
    (told : tale = stale.flatMap Activity.dropping ++ more)
    (received : Port.slave.receivedCounter.tally more = 1)
    (unexpected : Port.slave.unexpectedCounter.tally more = 0) :
    Consults timeout deadline now origin request stale [reply]
      (.on .slave contacts ++ .on origin [.write time reply written]) tale outcome := by
  obtain ⟨receivedStale, unexpectedStale⟩ := tally_dropping stale
  constructor
  · exact ⟨contacts, time, written, consultation, rfl⟩
  · rw [told, Counter.tally_append, received, receivedStale]
    rfl
  · rw [told, Counter.tally_append, unexpected, unexpectedStale]
    rfl

/-- A check that finds nothing more leaves the line of the slave to the request. -/
theorem Check.clear_eq (check : Check now contacts tale (.ok ())) :
    ∃ stale, contacts = .on .slave (Contact.takings now stale ++ [.poll now .pending]) ∧
      tale = stale.flatMap Activity.dropping := by
  cases check with
  | @clear stale => exact ⟨stale, rfl, rfl⟩

/-- Behind a request that is written, the slave is waited for once. -/
theorem Answering.consults {stale : List Frame} {bytes : List UInt8}
    (answering : Answering timeout deadline now origin contacts tale outcome) :
    ∃ replies, Consults timeout deadline now origin request stale replies
      (.on .slave (Contact.takings now stale ++ [.poll now .pending]) ++
        (.on .slave [.write now request (.ok bytes)] ++ contacts))
      (stale.flatMap Activity.dropping ++
        ([.forwarding request origin, .sent .slave request bytes] ++ tale)) outcome := by
  have unanswered {finish answer told} (frameless : ∀ frame, answer ≠ .frame frame)
      (received : Port.slave.receivedCounter.tally told = 0)
      (unexpected : Port.slave.unexpectedCounter.tally told = 0) :
      ∃ replies, Consults timeout deadline now origin request stale replies
        (.on .slave (Contact.takings now stale ++ [.poll now .pending]) ++
          (.on .slave [.write now request (.ok bytes)] ++
            .on .slave [.wait now (min (now + timeout) deadline) finish answer]))
        (stale.flatMap Activity.dropping ++
          ([.forwarding request origin, .sent .slave request bytes] ++ told)) outcome := by
    rw [← Contacts.on_append, ← Contacts.on_append]
    refine ⟨[], .of_slave (.unanswered frameless) rfl ?_ ?_⟩
    · rw [Counter.tally_append, received]
      simp [Activity.counter?]
    · rw [Counter.tally_append, unexpected]
      simp [Activity.counter?]
  cases answering with
  | timedOut => exact unanswered (by simp) (by simp [Activity.counter?]) (by simp [Activity.counter?])
  | abandoned => exact unanswered (by simp) rfl rfl
  | ended => exact unanswered (by simp) rfl rfl
  | unreadable => exact unanswered (by simp) rfl rfl
  | @answered finish reply _ _ _ handover =>
    have consultation : Consultation timeout deadline now request stale
        (Contact.takings now stale ++ [.poll now .pending] ++ ([.write now request (.ok bytes)] ++
          [.wait now (min (now + timeout) deadline) finish (.frame reply)])) outcome [reply] :=
      .answered
    rw [← List.append_assoc, ← List.append_assoc, ← Contacts.on_append, ← Contacts.on_append,
      List.append_assoc _ [Contact.write ..]]
    cases handover with
    | written =>
      refine ⟨_, .of_reply consultation rfl ?_ ?_⟩
      · simp [Activity.counter?]
      · simp [Activity.counter?]
    | unwritten =>
      refine ⟨_, .of_reply consultation rfl ?_ ?_⟩
      · simp [Activity.counter?]
      · simp [Activity.counter?]

/-- An exchange consults the slave. -/
theorem Exchange.consults
    (exchange : Exchange timeout deadline now origin request contacts tale outcome) :
    ∃ stale replies,
      Consults timeout deadline now origin request stale replies contacts tale outcome := by
  cases exchange with
  | unchecked check =>
    cases check with
    | ended => exact ⟨_, [], .of_slave .ended (List.append_nil _).symm rfl rfl⟩
    | unreadable => exact ⟨_, [], .of_slave .unreadable (List.append_nil _).symm rfl rfl⟩
  | unasked check handover =>
    obtain ⟨stale, rfl, rfl⟩ := check.clear_eq
    cases handover with
    | unwritten =>
      rw [← Contacts.on_append]
      refine ⟨stale, [], .of_slave .unwritten rfl ?_ ?_⟩
      · simp [Activity.counter?]
      · simp [Activity.counter?]
  | asked check handover answering =>
    obtain ⟨stale, rfl, rfl⟩ := check.clear_eq
    cases handover with
    | written =>
      obtain ⟨replies, consults⟩ := answering.consults
      exact ⟨stale, replies, consults⟩

/-! ## Exchanges in a step -/

variable {routing : Routing} {mux : Multiplexer} {frame : Frame}

/-- A step that takes a request of a master is an exchange from the state in which it was taken. -/
theorem step_eq_exchange (rules : mux.routing = routing)
    (selected : outcomeOf (select deadline mux) = .ok (some (origin, frame)))
    (decided : routing.decide origin frame = .forward request) :
    step deadline mux = exchange deadline origin request (leftBy (select deadline mux)) := by
  obtain ⟨_, _, _, passage⟩ := select_follows deadline mux
  rw [step_eq_carryOut selected, passage.routing, rules, decided]
  rfl

/-- The contacts with the slave are those of its consultation. -/
theorem withPort_slave {slave master : List Contact} (distinct : origin ≠ .slave)
    (split : contacts = .on .slave slave ++ .on origin master) :
    contacts.withPort .slave = slave := by
  rw [split, Contacts.withPort_append, Contacts.withPort_on, Contacts.withPort_on, if_pos rfl,
    if_neg distinct, List.append_nil]

/-- What a consultation takes off the line of the slave: all frames that are ready, if the request is
handed over, and a reply that takes one of the bytes at least that become readable behind it. -/
theorem Consultation.ledger {stale replies : List Frame} {slave : List Contact} {line after : Line}
    (strict : line.reader.Strict) (undergoes : line.Undergoes slave after)
    (consultation : Consultation timeout deadline now request stale slave outcome replies) :
    (∀ time frame written, Contact.write time frame written ∈ slave →
      stale = (Frame.oneShot (line.intake.delivered now)).frames) ∧
    ∀ reply ∈ replies, ∃ count fresh, fresh ≠ [] ∧
      reply.layout = (Frame.oneShot (line.intake.delivered now)).rest ++ fresh ∧
      fresh <+: line.freshBytes now count := by
  have taken {cleared : Line}
      (checking : line.Undergoes (Contact.takings now stale ++ [.poll now .pending]) cleared) :
      stale = (Frame.oneShot (line.intake.delivered now)).frames :=
    (checking.cleared strict).stale
  cases consultation with
  | ended => simp [Contact.takings]
  | unreadable => simp [Contact.takings]
  | unwritten =>
    obtain ⟨cleared, checking, _⟩ := undergoes.of_append
    exact ⟨fun _ _ _ _ => taken checking, by simp⟩
  | unanswered frameless =>
    obtain ⟨cleared, checking, _⟩ := undergoes.of_append
    exact ⟨fun _ _ _ _ => taken checking, by simp⟩
  | answered =>
    obtain ⟨cleared, checking, _⟩ := undergoes.of_append
    refine ⟨fun _ _ _ _ => taken checking, ?_⟩
    intro reply among
    obtain rfl := List.mem_singleton.1 among
    exact undergoes.reply strict

/-- A poll that gives anything but a frame or nothing ends a consultation, and nothing is handed to the
slave. -/
theorem Consultation.interrupted {stale replies : List Frame} {slave : List Contact} {time : Nat}
    {answer : Poll} (frameless : ∀ frame, answer ≠ .frame frame) (known : answer ≠ .pending)
    (among : .poll time answer ∈ slave)
    (consultation : Consultation timeout deadline now request stale slave outcome replies) :
    replies = [] ∧ (Contacts.on .slave slave).filterMap Contact.handed? = [] ∧
      (answer = .ended → outcome = .error (.failed (.portClosed .slave))) ∧
      ∀ cause, answer = .failure cause → outcome = .error (.failed (.read .slave cause)) := by
  have untaken : Contact.poll time answer ∉ Contact.takings now stale := by
    simp [Contact.takings, Ne.symm (frameless _)]
  cases consultation with
  | ended =>
    obtain ⟨_, rfl⟩ : time = now ∧ answer = .ended := by simpa [untaken] using among
    simp [Contact.handed?]
  | unreadable =>
    obtain ⟨_, rfl⟩ : time = now ∧ answer = .failure _ := by simpa [untaken] using among
    simp [Contact.handed?]
  | unwritten => simp [untaken, known] at among
  | unanswered => simp [untaken, known] at among
  | answered => simp [untaken, known] at among

/-! ## What the contacts of an exchange come to -/

namespace Consults

variable {stale replies : List Frame}

/-- A poll that gives anything but a frame or nothing ends what is done for a request, and nothing is
handed to any port. -/
theorem interrupted {time : Nat} {answer : Poll}
    (consults : Consults timeout deadline now origin request stale replies contacts tale outcome)
    (frameless : ∀ frame, answer ≠ .frame frame) (known : answer ≠ .pending)
    (among : (.slave, .poll time answer) ∈ contacts) :
    (∀ port, contacts.handedTo port = []) ∧
      (answer = .ended → outcome = .error (.failed (.portClosed .slave))) ∧
      ∀ cause, answer = .failure cause → outcome = .error (.failed (.read .slave cause)) := by
  obtain ⟨slave, _, written, consultation, split⟩ := consults.order
  have inSlave : .poll time answer ∈ slave := by
    simpa [split, Contacts.on] using among
  obtain ⟨rfl, silent, ended, failed⟩ := consultation.interrupted frameless known inSlave
  have whole : contacts = .on .slave slave := by simpa using split
  rw [whole]
  exact ⟨fun port => Contacts.handedTo_of_silent port silent, ended, failed⟩

/-- The master is handed what the slave replied. -/
theorem relayed (distinct : origin ≠ .slave)
    (consults : Consults timeout deadline now origin request stale replies contacts tale outcome) :
    contacts.handedTo origin = replies := by
  obtain ⟨slave, time, written, _, split⟩ := consults.order
  rw [split, Contacts.handedTo_append, Contacts.handedTo_on_of_ne (Ne.symm distinct),
    Contacts.handedTo_on_writes, List.nil_append]

/-- What is taken off the line of the slave for a request. -/
theorem ledger {line after : Line} (distinct : origin ≠ .slave) (strict : line.reader.Strict)
    (consults : Consults timeout deadline now origin request stale replies contacts tale outcome)
    (undergoes : line.Undergoes (contacts.withPort .slave) after) :
    (contacts.handedTo .slave ≠ [] → stale = (Frame.oneShot (line.intake.delivered now)).frames) ∧
    ∀ reply ∈ replies, ∃ count fresh, fresh ≠ [] ∧
      reply.layout = (Frame.oneShot (line.intake.delivered now)).rest ++ fresh ∧
      fresh <+: line.freshBytes now count := by
  obtain ⟨slave, time, written, consultation, split⟩ := consults.order
  rw [withPort_slave distinct split] at undergoes
  obtain ⟨dropped, beyond⟩ := consultation.ledger strict undergoes
  constructor
  · intro handed
    obtain ⟨time, frame, written, among⟩ := Contacts.exists_write_of_handedTo handed
    have inSlave : Contact.write time frame written ∈ slave := by
      simpa [split, Contacts.on, distinct] using among
    exact dropped time frame written inSlave
  · exact beyond

end Consults

/-- What a step does that forwards a request of a master, from the state in which it was taken. -/
structure Forwards (timeout deadline : Nat) (origin : Port) (request : Frame)
    (chosen after : Multiplexer) (outcome : Except Halt Unit) (stale replies : List Frame)
    (contacts : Contacts) (tale : List Activity) : Prop where
  passage : Passage chosen contacts tale after
  course : Exchange timeout deadline chosen.now origin request contacts tale outcome
  /-- The slave is polled, handed the request, and waited for, in this order. -/
  consults : Consults timeout deadline chosen.now origin request stale replies contacts tale outcome
  received : (Metrics.ofTrace after.trace).count (.framesReceived Port.slave.name)
    = (Metrics.ofTrace chosen.trace).count (.framesReceived Port.slave.name)
      + (stale.length + replies.length)
  unexpected : (Metrics.ofTrace after.trace).count (.unexpectedFrames Port.slave.name)
    = (Metrics.ofTrace chosen.trace).count (.unexpectedFrames Port.slave.name) + stale.length
  /-- A poll that meets the end of the slave ends the step, and nothing is handed over. -/
  ended : ∀ time, (.slave, .poll time .ended) ∈ contacts →
    outcome = .error (.failed (.portClosed .slave)) ∧ ∀ port, contacts.handedTo port = []
  /-- A poll that fails ends the step, and nothing is handed over. -/
  unreadable : ∀ time cause, (.slave, .poll time (.failure cause)) ∈ contacts →
    outcome = .error (.failed (.read .slave cause)) ∧ ∀ port, contacts.handedTo port = []
  relayed : contacts.handedTo origin = replies
  /-- Before the request is handed over, all that one shot finds in what the slave had delivered is
  dropped. -/
  dropped : contacts.handedTo .slave ≠ [] →
    stale = (Frame.oneShot (chosen.lines.slave.intake.delivered chosen.now)).frames
  /-- What is relayed lies behind all that was dropped, and reaches beyond what the slave had
  delivered. -/
  beyond : ∀ reply ∈ replies, ∃ count fresh, fresh ≠ [] ∧
    reply.layout = (Frame.oneShot (chosen.lines.slave.intake.delivered chosen.now)).rest ++ fresh ∧
    fresh <+: chosen.lines.slave.freshBytes chosen.now count

/-- An exchange in a sound state forwards its request. -/
theorem Sound.forwards {chosen : Multiplexer} (sound : chosen.Sound routing)
    (distinct : origin ≠ .slave) (deadline : Nat) (request : Frame) :
    ∃ stale replies contacts tale, Forwards routing.responseTimeout deadline origin request chosen
      (leftBy (exchange deadline origin request chosen))
      (outcomeOf (exchange deadline origin request chosen)) stale replies contacts tale := by
  obtain ⟨contacts, tale, course, passage⟩ := exchange_follows deadline origin request chosen
  rw [sound.rules] at course
  obtain ⟨stale, replies, consults⟩ := course.consults
  obtain ⟨dropped, beyond⟩ :=
    consults.ledger distinct (sound.strict .slave) (passage.lines .slave)
  refine ⟨stale, replies, contacts, tale, ?_⟩
  constructor
  · exact passage
  · exact course
  · exact consults
  · rw [count_of_passage passage, ← consults.received]
    rfl
  · rw [count_of_passage passage, ← consults.unexpected]
    rfl
  · intro time among
    obtain ⟨silent, ended, _⟩ := consults.interrupted (by simp) (by simp) among
    exact ⟨ended rfl, silent⟩
  · intro time cause among
    obtain ⟨silent, _, failed⟩ := consults.interrupted (by simp) (by simp) among
    exact ⟨failed cause rfl, silent⟩
  · exact consults.relayed distinct
  · exact dropped
  · exact beyond

/-- In every state that is reached, a step that forwards a request of a master takes off the line of the
slave what is ready, finds nothing more, hands over the request, and waits once. What was ready is
dropped, and what the wait gives is relayed once. -/
theorem step_forwards (reached : Reached routing mux)
    (selected : outcomeOf (select deadline mux) = .ok (some (origin, frame)))
    (decided : routing.decide origin frame = .forward request) :
    ∃ stale replies contacts tale, Forwards routing.responseTimeout deadline origin request
      (leftBy (select deadline mux)) (leftBy (step deadline mux)) (outcomeOf (step deadline mux))
      stale replies contacts tale := by
  obtain ⟨_, _, _, choosing⟩ := select_follows deadline mux
  rw [step_eq_exchange reached.sound.rules selected decided]
  exact (reached.sound.of_passage choosing).forwards (master_of_forward decided) deadline request

/-- A request is not answered in its time. Its answer comes behind that, and then a further request,
which is answered 10 ms after it is written. -/
def lateReply : List Happening :=
  [.feed .externalMaster ⟨0, .bytes [0x10, 0x7B, 0x5A, 0xD5, 0x16]⟩, .step 3600000,
    .feed .slave ⟨0, .bytes [0x68, 4, 4, 0x68, 0x08, 0x5A, 0x72, 0x3C, 0x10, 0x16]⟩,
    .prepare .slave [⟨10, .bytes [0x68, 4, 4, 0x68, 0x08, 0x5A, 0x72, 0x3D, 0x11, 0x16]⟩],
    .feed .externalMaster ⟨0, .bytes [0x10, 0x7B, 0x5A, 0xD5, 0x16]⟩]

/-- Behind a late reply, a further request is forwarded: one frame is dropped, and one is relayed. -/
theorem step_forwards_behind_lateReply :
    let mux := (fresh .standard).behind lateReply
    let deadline := mux.now + 3600000
    ∃ stale replies contacts tale, stale.length = 1 ∧ replies.length = 1 ∧
      Forwards Routing.standard.responseTimeout deadline .externalMaster (.short 0x7B 0x5A)
        (leftBy (select deadline mux)) (leftBy (step deadline mux)) (outcomeOf (step deadline mux))
        stale replies contacts tale := by
  intro mux deadline
  have reached : Reached .standard mux := Reached.fresh.behind lateReply
  have selected : outcomeOf (select deadline mux)
      = .ok (some (.externalMaster, .short 0x7B 0x5A)) := by
    decide +kernel
  have decided : Routing.standard.decide .externalMaster (.short 0x7B 0x5A)
      = .forward (.short 0x7B 0x5A) := by
    decide +kernel
  obtain ⟨stale, replies, contacts, tale, forwards⟩ :=
    step_forwards reached selected decided
  have counted : (Metrics.ofTrace (leftBy (step deadline mux)).trace).count
        (.framesReceived Port.slave.name)
      = (Metrics.ofTrace (leftBy (select deadline mux)).trace).count
        (.framesReceived Port.slave.name) + 2 ∧
      (Metrics.ofTrace (leftBy (step deadline mux)).trace).count
        (.unexpectedFrames Port.slave.name)
      = (Metrics.ofTrace (leftBy (select deadline mux)).trace).count
        (.unexpectedFrames Port.slave.name) + 1 := by
    decide +kernel
  have received := forwards.received
  have unexpected := forwards.unexpected
  exact ⟨stale, replies, contacts, tale, by omega, by omega, forwards⟩

/-! ## The bytes of a reply -/

/-- In every state that is reached, what a step relays for a request consists of the bytes that the
slave had delivered behind its last whole frame, and of bytes that become readable behind the request,
of which there is one at least. So all its bytes are of the latter kind if the slave had delivered
whole frames only. -/
theorem relayed_bytes (reached : Reached routing mux)
    (selected : outcomeOf (select deadline mux) = .ok (some (origin, frame)))
    (decided : routing.decide origin frame = .forward request) :
    let chosen := leftBy (select deadline mux)
    let left := (Frame.oneShot (chosen.lines.slave.intake.delivered chosen.now)).rest
    ∃ contacts tale, Passage chosen contacts tale (leftBy (step deadline mux)) ∧
      ∀ reply ∈ contacts.handedTo origin, ∃ count fresh,
        fresh ≠ [] ∧ fresh <+: chosen.lines.slave.freshBytes chosen.now count ∧
        reply.layout = left ++ fresh ∧
        (left = [] → reply.layout <+: chosen.lines.slave.freshBytes chosen.now count) := by
  intro chosen left
  obtain ⟨_, _, _, choosing⟩ := select_follows deadline mux
  have forwarding :=
    (reached.sound.of_passage choosing).forwards (master_of_forward decided) deadline request
  rw [← step_eq_exchange reached.sound.rules selected decided] at forwarding
  obtain ⟨stale, replies, contacts, tale, forwards⟩ := forwarding
  refine ⟨contacts, tale, forwards.passage, ?_⟩
  rw [forwards.relayed]
  intro reply among
  obtain ⟨count, fresh, some, layout, front⟩ := forwards.beyond reply among
  refine ⟨count, fresh, some, front, layout, ?_⟩
  intro nothing
  change (Frame.oneShot _).rest = [] at nothing
  rw [layout, nothing]
  exact front

/-- A request is not answered in its time. Behind that come all but the last two bytes of its answer,
and then a further request. The last two bytes come 10 ms after that is written. -/
def straddlingReply : List Happening :=
  [.feed .externalMaster ⟨0, .bytes [0x10, 0x7B, 0x5A, 0xD5, 0x16]⟩, .step 3600000,
    .feed .slave ⟨0, .bytes [0x68, 4, 4, 0x68, 0x08, 0x5A, 0x72, 0x3C]⟩,
    .prepare .slave [⟨10, .bytes [0x10, 0x16]⟩],
    .feed .externalMaster ⟨0, .bytes [0x10, 0x7B, 0x5A, 0xD5, 0x16]⟩]

/-- Behind the start of a late reply, the relayed reply ends in bytes that come in time. -/
theorem relayed_bytes_behind_straddlingReply :
    let mux := (fresh .standard).behind straddlingReply
    let deadline := mux.now + 3600000
    let chosen := leftBy (select deadline mux)
    ∃ contacts tale, Passage chosen contacts tale (leftBy (step deadline mux)) ∧
      ∀ reply ∈ contacts.handedTo .externalMaster, ∃ count fresh,
        fresh ≠ [] ∧ fresh <+: chosen.lines.slave.freshBytes chosen.now count ∧
        reply.layout = [0x68, 4, 4, 0x68, 0x08, 0x5A, 0x72, 0x3C] ++ fresh := by
  intro mux deadline chosen
  have reached : Reached .standard mux := Reached.fresh.behind straddlingReply
  have selected : outcomeOf (select deadline mux)
      = .ok (some (.externalMaster, .short 0x7B 0x5A)) := by
    decide +kernel
  have decided : Routing.standard.decide .externalMaster (.short 0x7B 0x5A)
      = .forward (.short 0x7B 0x5A) := by
    decide +kernel
  have left : (Frame.oneShot (chosen.lines.slave.intake.delivered chosen.now)).rest
      = [0x68, 4, 4, 0x68, 0x08, 0x5A, 0x72, 0x3C] := by
    decide +kernel
  obtain ⟨contacts, tale, passage, relayed⟩ := relayed_bytes reached selected decided
  refine ⟨contacts, tale, passage, ?_⟩
  intro reply among
  obtain ⟨count, fresh, some, front, layout, _⟩ := relayed reply among
  rw [left] at layout
  exact ⟨count, fresh, some, front, layout⟩

/-- The start of a late reply is not dropped. It is completed by bytes that come in time, and relayed as
the answer to the further request, though its first eight bytes had been delivered before. -/
theorem straddlingReply_is_relayed :
    let mux := (fresh .standard).behind straddlingReply
    let deadline := mux.now + 3600000
    let chosen := leftBy (select deadline mux)
    let request : Frame := .short 0x7B 0x5A
    let reply : Frame := .long 0x08 0x5A 0x72 [0x3C]
    Reached .standard mux ∧
    outcomeOf (select deadline mux) = .ok (some (.externalMaster, request)) ∧
    Routing.standard.decide .externalMaster request = .forward request ∧
    chosen.lines.slave.intake.delivered chosen.now = reply.layout.take 8 ∧
    outcomeOf (step deadline mux) = .ok () ∧
    (leftBy (step deadline mux)).story = chosen.story ++
      [.forwarding request .externalMaster, .sent .slave request request.layout,
        .received .slave reply, .relaying reply .externalMaster,
        .sent .externalMaster reply reply.layout, .relayed .externalMaster] ∧
    ∀ count, ¬ reply.layout <:+: chosen.lines.slave.freshBytes chosen.now count := by
  intro mux deadline chosen request reply
  have told : outcomeOf (select deadline mux) = .ok (some (.externalMaster, request)) ∧
      Routing.standard.decide .externalMaster request = .forward request ∧
      chosen.lines.slave.intake.delivered chosen.now = reply.layout.take 8 ∧
      outcomeOf (step deadline mux) = .ok () ∧
      (leftBy (step deadline mux)).story = chosen.story ++
        [.forwarding request .externalMaster, .sent .slave request request.layout,
          .received .slave reply, .relaying reply .externalMaster,
          .sent .externalMaster reply reply.layout, .relayed .externalMaster] := by
    decide +kernel
  obtain ⟨selected, decided, delivered, outcome, story⟩ := told
  have reached : Reached .standard mux := Reached.fresh.behind straddlingReply
  refine ⟨reached, selected, decided, delivered, outcome, story, ?_⟩
  intro count inside
  have coming : chosen.lines.slave.intake.coming chosen.now = [] := by
    decide +kernel
  have answers : chosen.lines.slave.answers = [[⟨10, .bytes [0x10, 0x16]⟩]] := by
    decide +kernel
  have few : (chosen.lines.slave.freshBytes chosen.now count).length ≤ 2 := by
    rw [Line.freshBytes, coming, answers]
    cases count with
    | zero => simp
    | succ count => simp [Delivery.arrivals, Chunk.content]
  have many : reply.layout.length = 10 := by
    decide +kernel
  have short := inside.length_le
  omega

end Multiplexer

end MeterBus
