import MeterBus.Proofs.Proxy.Deadline
import MeterBus.Proofs.Proxy.Output

/-!
# Steps that fail

A step can fail where it polls a port, where it takes off what the slave has ready, where it writes, and
where it waits for an answer. Wherever it does, nothing has gone out to a master, and nothing has been
counted but frames that were taken. Only the slave may have been sent a frame: the request whose answer
then failed to come, or could not be relayed. `AnswerFails` lists the failures behind a request.
-/

namespace MeterBus

/-- Whether a counter counts frames that were taken, and not what was done about them. -/
def Counter.isIntake : Counter → Bool
  | .framesReceived _ | .unexpectedFrames _ => true
  | _ => false

/-- Whether an activity is counted as the intake of a frame, or not at all. -/
def Activity.isUneventful (activity : Activity) : Bool :=
  activity.counter?.all (·.isIntake)

/-- What is not counted is uneventful. -/
theorem Activity.isUneventful_of_uncounted {activity : Activity}
    (uncounted : activity.counter? = none) : activity.isUneventful = true := by
  rw [isUneventful, uncounted]
  rfl

/-- What tells of no write puts nothing out. -/
theorem Activity.writtenTo_of_writes {activity : Activity} {port : Port}
    (silent : activity.writes = false) : activity.writtenTo port = [] := by
  cases activity <;> first | rfl | cases silent

/-- What tells of no write is not counted as a frame that was sent. -/
theorem Activity.counter_ne_of_writes {activity : Activity} {port : Port}
    (silent : activity.writes = false) : activity.counter? ≠ some port.sentCounter := by
  cases activity <;> simp_all [Activity.counter?, Activity.writes]

namespace Multiplexer

variable {start mux asked : Multiplexer} {port origin : Port} {frame request : Frame}
  {contacts : Contacts} {tale : List Activity} {announcement : Activity} {done : List Activity}
  {halt : Halt} {error : ProxyError} {timeout deadline now : Nat}

/-! ## What goes out is counted -/

/-- What an activity writes goes out last. -/
theorem output_note (activity : Activity) (mux : Multiplexer) (port : Port) :
    (mux.note activity).output port = mux.output port ++ activity.writtenTo port := by
  simp [output, note]

/-- Reports of a codec put nothing out. -/
theorem output_noteCodec (other : Port) (events : List Codec.Event) (mux : Multiplexer) (port : Port) :
    (mux.noteCodec other events).output port = mux.output port := by
  induction events generalizing mux with
  | nil => rfl
  | cons event events inductionHypothesis =>
    refine (inductionHypothesis _).trans ?_
    rw [output_note]
    exact List.append_nil _

/-- What relieves a port goes out on it last. -/
theorem output_noteRelief (other : Port) (written : List UInt8) (mux : Multiplexer) (port : Port) :
    (mux.noteRelief other written).output port
      = mux.output port ++ if other = port then written else [] := by
  unfold noteRelief
  split
  · next empty => simp [List.isEmpty_iff.1 empty]
  · exact output_note ..

/-- Since some state, a port was sent so many frames, and these bytes went out on it: some if there was a
frame, and none otherwise. -/
structure SentSince (start : Multiplexer) (port : Port) (count : Nat) (bytes : List UInt8)
    (mux : Multiplexer) : Prop where
  counted : port.sentCounter.tally mux.story = port.sentCounter.tally start.story + count
  output : mux.output port = start.output port ++ bytes
  some : count = 0 ↔ bytes = []

/-- Whether what went out on a port since some state was counted. -/
def Counts (start : Multiplexer) (port : Port) (mux : Multiplexer) : Prop :=
  ∃ count bytes, SentSince start port count bytes mux

/-- Where nothing is told, nothing goes out. -/
theorem Counts.of_trace {after : Multiplexer} (counts : Counts start port mux)
    (trace : after.trace = mux.trace) : Counts start port after := by
  obtain ⟨count, bytes, counted, output, some⟩ := counts
  refine ⟨count, bytes, ?_, ?_, some⟩
  · rw [story, trace]
    exact counted
  · rw [Multiplexer.output, trace]
    exact output

/-- What tells of no write is not counted as one. -/
theorem Counts.note {activity : Activity} (counts : Counts start port mux)
    (silent : activity.writes = false) : Counts start port (mux.note activity) := by
  obtain ⟨count, bytes, counted, output, some⟩ := counts
  refine ⟨count, bytes, ?_, ?_, some⟩
  · have uncounted : port.sentCounter.tally ([activity].filter (·.isOwn)) = 0 := by
      rw [Counter.tally, List.countP_eq_zero]
      intro told among
      obtain rfl : told = activity := by simpa using (List.mem_filter.1 among).1
      exact fun counted => Activity.counter_ne_of_writes silent (of_decide_eq_true counted)
    rw [story_note, Counter.tally_append, counted, uncounted, Nat.add_zero]
  · rw [output_note, output, Activity.writtenTo_of_writes silent, List.append_nil]

/-- What is counted stays so as long as nothing is written. -/
theorem counts_maintained (start : Multiplexer) (port : Port) :
    Maintained (fun activity => activity.writes = false) (Counts start port) where
  reports := fun _ _ => rfl
  taking := fun _ _ _ _ counts => counts.of_trace rfl
  telling := fun _ _ silent counts => counts.note silent

/-- Handing over a valid frame either writes it, which is counted, or puts nothing out at all. -/
theorem counts_send (start : Multiplexer) (port other : Port) {frame : Frame}
    (valid : frame.validate = .ok ()) : Keeps (Counts start port) (send other frame) := by
  intro mux counts
  have maintained := counts_maintained start port
  have replaced : Counts start port (mux.setLine other (mux.offer other frame).line) :=
    counts.of_trace rfl
  cases written : (mux.offer other frame).written with
  | error cause =>
    have unrelieved : (mux.offer other frame).relieved = [] :=
      Line.relieved_of_failed valid written
    rw [send_eq_of_error written, offering, unrelieved]
    exact maintained.noteCodec _ replaced
  | ok bytes =>
    rw [send_eq_of_ok written]
    obtain ⟨count, before, counted, output, some⟩ := counts
    have told : ((mux.offering other frame).note (.sent other frame bytes)).story
        = mux.story ++ [.sent other frame bytes] := by
      rw [story_note_of_isOwn _ rfl, offering, story_noteCodec, story_noteRelief, story_setLine]
    have out : ((mux.offering other frame).note (.sent other frame bytes)).output port
        = mux.output port ++ (if other = port then (mux.offer other frame).relieved else [])
          ++ if other = port then bytes else [] := by
      rw [output_note, offering, output_noteCodec, output_noteRelief]
      rfl
    by_cases same : other = port
    · rw [if_pos same, if_pos same, output] at out
      refine ⟨count + 1, before ++ (mux.offer other frame).relieved ++ bytes, ?_, ?_, ?_⟩
      · rw [told, Counter.tally_append, counted]
        simp [Activity.counter?, same, Nat.add_assoc]
      · rw [out]
        simp only [List.append_assoc]
      · simp [Line.ne_nil_of_written valid written]
    · rw [if_neg same, if_neg same, List.append_nil, List.append_nil, output] at out
      refine ⟨count, before, ?_, out, some⟩
      rw [told, Counter.tally_append, counted]
      simp [Activity.counter?, same]

/-- What every step puts out on a port is counted. -/
theorem counts_steady (start : Multiplexer) (port : Port) : Steady (Counts start port) where
  maintained := counts_maintained start port
  deafening := fun _ _ counts => counts.of_trace rfl
  passing := fun _ _ counts => counts.of_trace rfl
  sending := fun other _ valid => counts_send start port other valid

/-! ## What failures leave uncounted -/

/-- Whether a tale counts so many requests to the slave, and nothing else but the intake of frames. -/
def Spends (requests : Nat) (tale : List Activity) : Prop :=
  ∀ counter : Counter, counter.isIntake = false →
    counter.tally tale = if counter = Port.slave.sentCounter then requests else 0

/-- An uneventful tale counts the intake of frames alone. -/
theorem Spends.of_uneventful (uneventful : ∀ activity ∈ tale, activity.isUneventful = true) :
    Spends 0 tale := by
  intro counter other
  rw [ite_self, Counter.tally, List.countP_eq_zero]
  intro activity among counted
  have counted : activity.counter? = some counter := of_decide_eq_true counted
  have intake := uneventful activity among
  rw [Activity.isUneventful, counted, Option.all_some, other] at intake
  cases intake

/-- Requests are counted in one tale behind the other. -/
theorem Spends.append {requests requestsThen : Nat} {more : List Activity}
    (first : Spends requests tale) (second : Spends requestsThen more) :
    Spends (requests + requestsThen) (tale ++ more) := by
  intro counter other
  rw [Counter.tally_append, first counter other, second counter other]
  split <;> rfl

/-- Waiting for a frame counts its intake. -/
theorem Selection.uneventful {found : Except Halt (Option (Port × Frame))}
    (selection : Selection contacts tale found) :
    ∀ activity ∈ tale, activity.isUneventful = true := by
  have waiting {contacts : Contacts} {tale : List Activity} (idling : Idling contacts tale) :
      ∀ activity ∈ tale, activity.isUneventful = true :=
    fun activity among => Activity.isUneventful_of_uncounted (idling.uncounted activity among)
  cases selection with
  | deaf idling => exact waiting idling
  | abandoned idling => exact waiting idling
  | failed idling => exact waiting idling
  | cancelled idling => exact List.forall_mem_append.2 ⟨waiting idling, by simp; rfl⟩
  | taken idling => exact List.forall_mem_append.2 ⟨waiting idling, by simp; rfl⟩

/-- Dropping what the slave has ready counts its intake. -/
theorem Check.uneventful {outcome : Except Halt Unit} (check : Check now contacts tale outcome) :
    ∀ activity ∈ tale, activity.isUneventful = true := by
  have dropped (stale : List Frame) :
      ∀ activity ∈ stale.flatMap Activity.dropping, activity.isUneventful = true := by
    intro activity among
    obtain ⟨frame, _, told⟩ := List.mem_flatMap.1 among
    simp only [Activity.dropping, List.mem_cons, List.not_mem_nil, or_false] at told
    rcases told with rfl | rfl | rfl <;> rfl
  cases check <;> exact dropped _

/-- A frame that is not written is announced, which counts for nothing. -/
theorem Handover.uneventful (announces : announcement.Announces port frame)
    (handover : Handover announcement port frame done now contacts tale (.error halt)) :
    ∀ activity ∈ tale, activity.isUneventful = true := by
  have handed := announces.handed
  cases handover with
  | unwritten =>
    intro activity among
    obtain rfl := List.mem_singleton.1 among
    apply Activity.isUneventful_of_uncounted
    cases activity <;> first | rfl | cases handed

/-- What fails behind a request counts the intake of an answer at most. -/
theorem Answering.uneventful
    (answering : Answering timeout deadline now origin contacts tale (.error halt)) :
    ∀ activity ∈ tale, activity.isUneventful = true := by
  cases answering with
  | abandoned late => simp
  | ended => simp
  | unreadable => simp
  | @answered finish reply _ _ _ handover =>
    have announces : (Activity.relaying reply origin).Announces origin reply := ⟨rfl, rfl⟩
    rw [List.forall_mem_cons]
    exact ⟨rfl, handover.uneventful announces⟩

/-- A request is counted if it is written. -/
theorem Asking.spends {outcome : Except Halt Unit}
    (course : Asking now origin request contacts tale outcome) :
    Spends (if outcome = .ok () then 1 else 0) tale := by
  have announces : (Activity.forwarding request origin).Announces .slave request := ⟨rfl, rfl⟩
  cases course with
  | unchecked check => exact .of_uneventful check.uneventful
  | @checked _ _ _ more _ check handover =>
    have asking : Spends (if outcome = .ok () then 1 else 0) more := by
      cases outcome with
      | error halt => exact .of_uneventful (handover.uneventful announces)
      | ok _ =>
        cases handover with
        | written =>
          intro counter other
          simp [Activity.counter?, eq_comm]
    have whole := (Spends.of_uneventful check.uneventful).append asking
    rwa [Nat.zero_add] at whole

/-- Dealing with a frame without the slave fails before anything is counted. -/
theorem Treatment.uneventful {decision : Decision} (unforwarded : ∀ request, decision ≠ .forward request)
    (treatment : Treatment timeout deadline now port frame decision contacts tale (.error halt)) :
    ∀ activity ∈ tale, activity.isUneventful = true := by
  have announces : (Activity.acknowledging port).Announces port .single := ⟨rfl, rfl⟩
  cases treatment with
  | acknowledged handover => exact handover.uneventful announces
  | selected handover =>
    rw [List.forall_mem_cons]
    exact ⟨rfl, handover.uneventful announces⟩
  | forwarded exchange => exact absurd rfl (unforwarded _)

/-! ## Failures behind a request -/

/-- The time up to which the answer to a request is waited for. -/
def answerLimit (deadline : Nat) (asked : Multiplexer) : Nat :=
  min (asked.now + asked.routing.responseTimeout) deadline

/-- How an exchange fails whose request was written: the wait for the answer meets the end of the slave or
a failure to read it, or gives an answer that cannot be written to the master. -/
inductive AnswerFails (deadline : Nat) (origin : Port) (asked : Multiplexer) : ProxyError → Prop where
  | ended (met : (asked.awaited (asked.answerLimit deadline)).poll = .ended) :
      AnswerFails deadline origin asked (.portClosed .slave)
  | unreadable {cause} (met : (asked.awaited (asked.answerLimit deadline)).poll = .failure cause) :
      AnswerFails deadline origin asked (.read .slave cause)
  | unrelayed {reply cause} (met : (asked.awaited (asked.answerLimit deadline)).poll = .frame reply)
      (unwritten :
        ((asked.awaiting (asked.answerLimit deadline)).offer origin reply).written = .error cause) :
      AnswerFails deadline origin asked (.write origin cause)

/-- Waiting for an answer and relaying it fails in these ways only. -/
theorem answerFails_of_answering
    (failed : outcomeOf (answering deadline origin asked) = .error (.failed error)) :
    AnswerFails deadline origin asked error := by
  rw [answering_eq] at failed
  change outcomeOf (resolving deadline origin asked (asked.awaited (asked.answerLimit deadline)).poll
    (asked.awaiting (asked.answerLimit deadline))) = _ at failed
  cases met : (asked.awaited (asked.answerLimit deadline)).poll with
  | pending =>
    rw [met, resolving] at failed
    split at failed <;> cases failed
  | ended =>
    rw [met] at failed
    cases failed
    exact .ended met
  | failure cause =>
    rw [met] at failed
    cases failed
    exact .unreadable met
  | frame reply =>
    let announced :=
      ((asked.awaiting (asked.answerLimit deadline)).note (.received .slave reply)).note
        (.relaying reply origin)
    have whole : resolving deadline origin asked (.frame reply)
        (asked.awaiting (asked.answerLimit deadline))
          = (send origin reply >>= fun _ => report (.relayed origin)) announced := rfl
    rw [met, whole] at failed
    simp only [bind, EStateM.bind] at failed
    cases written : (announced.offer origin reply).written with
    | ok bytes =>
      rw [send_eq_of_ok written] at failed
      cases failed
    | error cause =>
      rw [send_eq_of_error written] at failed
      cases failed
      exact .unrelayed met written

/-- An exchange that fails has not written its request, or fails behind it. -/
theorem exchange_fails
    (failed : outcomeOf (exchange deadline origin request mux) = .error (.failed error)) :
    ∃ contacts tale requests,
      Passage mux contacts tale (leftBy (exchange deadline origin request mux)) ∧
      Spends requests tale ∧
      (requests = 0 ∨ requests = 1 ∧ outcomeOf (asking origin request mux) = .ok () ∧
        AnswerFails deadline origin (leftBy (asking origin request mux)) error) := by
  obtain ⟨contacts, tale, course, passage⟩ := asking_follows origin request mux
  have spends := course.spends
  cases asked : asking origin request mux with
  | error halt after =>
    rw [asked] at spends passage
    rw [exchange_of_unasked deadline asked]
    exact ⟨contacts, tale, 0, passage, spends, .inl rfl⟩
  | ok _ after =>
    rw [asked] at spends passage
    rw [exchange_of_asked deadline asked] at failed ⊢
    obtain ⟨later, more, answering, passageThen⟩ := answering_follows deadline origin after
    rw [failed] at answering
    have whole := spends.append (.of_uneventful answering.uneventful)
    exact ⟨_, _, 1, passage.trans passageThen, whole,
      .inr ⟨rfl, rfl, answerFails_of_answering failed⟩⟩

/-- Whether a step has written the request of a master to the slave, and its answer fails. -/
inductive AskedInVain (deadline : Nat) (mux : Multiplexer) (error : ProxyError) : Prop where
  | intro {origin : Port} {frame request : Frame}
      (selected : outcomeOf (select deadline mux) = .ok (some (origin, frame)))
      (decided : mux.routing.decide origin frame = .forward request)
      (written : outcomeOf (asking origin request (leftBy (select deadline mux))) = .ok ())
      (fails : AnswerFails deadline origin
        (leftBy (asking origin request (leftBy (select deadline mux)))) error)

/-- A step that fails has written no request, or its answer fails. -/
theorem step_fails (failed : outcomeOf (step deadline mux) = .error (.failed error)) :
    ∃ contacts tale requests, Passage mux contacts tale (leftBy (step deadline mux)) ∧
      Spends requests tale ∧ (requests = 0 ∨ requests = 1 ∧ AskedInVain deadline mux error) := by
  obtain ⟨contacts, tale, selection, choosing⟩ := select_follows deadline mux
  have spends := Spends.of_uneventful selection.uneventful
  cases step_onward deadline mux with
  | halted selected whole =>
    rw [whole]
    exact ⟨contacts, tale, 0, choosing, spends, .inl rfl⟩
  | idle selected whole =>
    rw [whole] at failed
    cases failed
  | @handled origin frame _ _ selected treatment passage =>
    cases decided : mux.routing.decide origin frame with
    | forward request =>
      rw [step_eq_carryOut selected, choosing.routing, decided] at failed ⊢
      obtain ⟨later, more, requests, passageThen, spendsThen, request⟩ := exchange_fails failed
      have whole := spends.append spendsThen
      rw [Nat.zero_add] at whole
      refine ⟨_, _, requests, choosing.trans passageThen, whole, request.imp_right ?_⟩
      rintro ⟨one, written, fails⟩
      exact ⟨one, .intro selected decided written fails⟩
    | _ =>
      rw [failed, decided] at treatment
      have whole := spends.append (.of_uneventful (treatment.uneventful (by simp)))
      exact ⟨_, _, 0, choosing.trans passage, whole, .inl rfl⟩

/-- What a step that failed has delivered: nothing to a master, and a request to the slave at most. -/
structure DeliversNothing (deadline : Nat) (mux : Multiplexer) (error : ProxyError) : Prop where
  /-- No byte goes out to a master. -/
  masters : ∀ port, port ≠ .slave → (leftBy (step deadline mux)).output port = mux.output port
  /-- Nothing is counted but the intake of frames, and the request. -/
  uncounted : ∀ counter, counter.isIntake = false → counter ≠ Port.slave.sentCounter →
    (Metrics.ofTrace (leftBy (step deadline mux)).trace).count counter
      = (Metrics.ofTrace mux.trace).count counter
  /-- Nothing goes out to the slave, or a request that is counted once and fails for want of an answer. -/
  slave : ∃ requests bytes,
    (Metrics.ofTrace (leftBy (step deadline mux)).trace).count Port.slave.sentCounter
      = (Metrics.ofTrace mux.trace).count Port.slave.sentCounter + requests ∧
    (leftBy (step deadline mux)).output .slave = mux.output .slave ++ bytes ∧
    (requests = 0 ∧ bytes = [] ∨ requests = 1 ∧ bytes ≠ [] ∧ AskedInVain deadline mux error)

/-- In no state does a step that fails deliver anything to a master, or count anything as done. Bytes go
out to the slave only if a request is written whose answer then fails, and it is counted once. -/
theorem failing_step_delivers_nothing
    (failed : outcomeOf (step deadline mux) = .error (.failed error)) :
    DeliversNothing deadline mux error := by
  obtain ⟨contacts, tale, requests, passage, spends, request⟩ := step_fails failed
  have counts (port : Port) : Counts mux port (leftBy (step deadline mux)) :=
    ((counts_steady mux port).step deadline).left ⟨0, [], rfl, (List.append_nil _).symm, by simp⟩
  have told (counter : Counter) := count_of_passage passage counter
  constructor
  · intro port master
    obtain ⟨count, bytes, counted, output, some⟩ := counts port
    have other : port.sentCounter ≠ Port.slave.sentCounter := by simpa using master
    have none : count = 0 := by
      rw [passage.story, Counter.tally_append, spends _ rfl, if_neg other] at counted
      omega
    rw [output, some.1 none, List.append_nil]
  · intro counter other sent
    rw [told, spends counter other, if_neg sent, Nat.add_zero]
  · obtain ⟨count, bytes, counted, output, some⟩ := counts .slave
    have same : count = requests := by
      rw [passage.story, Counter.tally_append, spends _ rfl, if_pos rfl] at counted
      omega
    subst same
    refine ⟨count, bytes, ?_, output, ?_⟩
    · rw [told, spends _ rfl, if_pos rfl]
    · rcases request with none | ⟨one, asked⟩
      · exact .inl ⟨none, some.1 none⟩
      · exact .inr ⟨one, fun empty => by simp [some.2 empty] at one, asked⟩

/-- The slave ends while an answer is awaited from it. -/
def endingMidExchange : List Happening :=
  [.prepare .slave [⟨10, .ended⟩],
    .feed .externalMaster ⟨0, .bytes [0x10, 0x7B, 0x5A, 0xD5, 0x16]⟩]

/-- A request has gone out to a slave that ends before it answers, and nothing to the master. -/
theorem failing_step_delivers_nothing_midExchange :
    let mux := (fresh .standard).behind endingMidExchange
    let after := leftBy (step 3600000 mux)
    outcomeOf (step 3600000 mux) = .error (.failed (.portClosed .slave)) ∧
      DeliversNothing 3600000 mux (.portClosed .slave) ∧
      after.output .slave = [0x10, 0x7B, 0x5A, 0xD5, 0x16] ∧ after.output .externalMaster = [] := by
  intro mux after
  have failed : outcomeOf (step 3600000 mux) = .error (.failed (.portClosed .slave)) := by
    decide +kernel
  refine ⟨failed, failing_step_delivers_nothing failed, ?_⟩
  decide +kernel

end Multiplexer

end MeterBus
