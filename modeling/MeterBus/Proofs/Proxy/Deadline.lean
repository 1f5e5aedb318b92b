import MeterBus.Proofs.Proxy.Replies
import MeterBus.Proofs.Stream.Patience

/-!
# Answers in time

Behind a request that is written, the slave has its time to answer. Whatever its line gives first ends
the exchange at that instant, if this is within the time: an answer is handed to the master, an end or a
failure is passed on to the caller. `Concludes` says so. Otherwise the exchange ends when the time is
over, without a failure: `Lapses` says that nothing becomes of it but a count, and that what there is of
an answer stays on the line of the slave.
-/

namespace MeterBus.Multiplexer

variable {routing : Routing} {mux asked : Multiplexer} {deadline limit finish : Nat} {origin : Port}
  {frame request : Frame} {answer : Poll} {left : Line}

/-- The part of an exchange up to the request. -/
def asking (origin : Port) (request : Frame) : Proceeding Unit := do
  discardStale
  report (.forwarding request origin)
  send .slave request

theorem exchange_eq_asking (deadline : Nat) (origin : Port) (request : Frame) :
    exchange deadline origin request = (do
      asking origin request
      answering deadline origin) := by
  rw [exchange_eq, asking]
  simp only [bind_assoc]

/-- An exchange goes on with the wait for an answer once the request is written. -/
theorem exchange_of_asked (deadline : Nat) (written : asking origin request mux = .ok () asked) :
    exchange deadline origin request mux = answering deadline origin asked := by
  rw [exchange_eq_asking]
  simp only [bind, EStateM.bind]
  rw [written]

/-- An exchange whose request is not written ends with it. -/
theorem exchange_of_unasked (deadline : Nat) {halt : Halt}
    (unwritten : asking origin request mux = .error halt asked) :
    exchange deadline origin request mux = .error halt asked := by
  rw [exchange_eq_asking]
  simp only [bind, EStateM.bind]
  rw [unwritten]

/-- How the part of an exchange up to the request can go. -/
inductive Asking (now : Nat) (origin : Port) (request : Frame) :
    Contacts → List Activity → Except Halt Unit → Prop where
  /-- The slave turns out to have ended or failed. -/
  | unchecked {contacts tale halt} (check : Check now contacts tale (.error halt)) :
      Asking now origin request contacts tale (.error halt)
  /-- The request is handed to the slave. -/
  | checked {contacts tale later more outcome} (check : Check now contacts tale (.ok ()))
      (handover : Handover (.forwarding request origin) .slave request [] now later more outcome) :
      Asking now origin request (contacts ++ later) (tale ++ more) outcome

/-- Asking the slave follows its course. -/
theorem asking_follows (origin : Port) (request : Frame) (mux : Multiplexer) :
    Follows (Asking mux.now origin request) mux (asking origin request mux) := by
  apply Follows.bind (discardStale_follows mux)
  · exact fun _ _ _ check => .unchecked check
  · intro contacts tale _ checked check _ result
    have announces : (Activity.forwarding request origin).Announces .slave request := ⟨rfl, rfl⟩
    obtain ⟨later, more, handover, passage⟩ := send_follows checked announces
    rw [now_discardStale result] at handover
    exact ⟨later, more, .checked check handover, passage⟩

/-- Nothing is told of waiting for the slave. -/
theorem story_awaiting (limit : Nat) (mux : Multiplexer) :
    (mux.awaiting limit).story = mux.story := by
  simp [awaiting]

/-- How an exchange ends to which the slave has given an answer: what becomes of the lines, what is told
of it, and what it comes to. -/
inductive Conclusion (origin : Port) (finish : Nat) (lines : PerPort Line) :
    Poll → PerPort Line → List Activity → Except Halt Unit → Prop where
  /-- A frame is handed to the master. -/
  | relayed {reply bytes}
      (sent : ((lines.get origin).send finish reply).written = .ok bytes) :
      Conclusion origin finish lines (.frame reply)
        (lines.set origin ((lines.get origin).send finish reply).line)
        [.received .slave reply, .relaying reply origin, .sent origin reply bytes, .relayed origin]
        (.ok ())
  /-- A frame cannot be handed to the master. -/
  | unsent {reply cause}
      (failed : ((lines.get origin).send finish reply).written = .error cause) :
      Conclusion origin finish lines (.frame reply)
        (lines.set origin ((lines.get origin).send finish reply).line)
        [.received .slave reply, .relaying reply origin] (.error (.failed (.write origin cause)))
  /-- The slave has ended. -/
  | ended : Conclusion origin finish lines .ended lines [] (.error (.failed (.portClosed .slave)))
  /-- The slave cannot be read. -/
  | unreadable {cause} :
      Conclusion origin finish lines (.failure cause) lines [] (.error (.failed (.read .slave cause)))

/-- An exchange whose request was written ends with what the slave gives first, and when it does. -/
structure Concludes (origin : Port) (finish : Nat) (answer : Poll) (left : Line)
    (asked after : Multiplexer) (outcome : Except Halt Unit) : Prop where
  now : after.now = finish
  conclusion : ∃ tale, after.story = asked.story ++ tale ∧
    Conclusion origin finish (asked.lines.set .slave left) answer after.lines tale outcome

/-- An exchange whose request was written ends when the time for the answer is over, without a failure.
Nothing is handed to any port, and only the timeout is counted. What is on the line of the slave stays
there, and is given to whoever asks later. -/
structure Lapses (origin : Port) (timeout : Nat) (asked after : Multiplexer)
    (outcome : Except Halt Unit) : Prop where
  outcome : outcome = .ok ()
  now : after.now = asked.now + timeout
  story : after.story = asked.story ++ [.timedOut origin timeout]
  untouched : ∀ port, port ≠ .slave → after.lines.get port = asked.lines.get port
  ahead : after.lines.slave.intake.ahead = asked.lines.slave.intake.ahead
  later : ∀ finish answer left, after.lines.slave.Gives after.now finish answer left
    ↔ asked.lines.slave.Gives asked.now finish answer left
  timedOut : (Metrics.ofTrace after.trace).count .responseTimeouts
    = (Metrics.ofTrace asked.trace).count .responseTimeouts + 1
  others : ∀ counter, counter ≠ .responseTimeouts →
    (Metrics.ofTrace after.trace).count counter = (Metrics.ofTrace asked.trace).count counter

/-- Waiting for the slave leaves what the wait leaves of its line, at the time at which it ends. -/
theorem awaiting_of_gives (gives : asked.lines.slave.Gives asked.now finish answer left)
    (inTime : finish ≤ limit) : (asked.awaited limit).poll = answer ∧
      (asked.awaiting limit).lines = asked.lines.set .slave left ∧
      (asked.awaiting limit).now = finish := by
  obtain ⟨poll, time, line⟩ := gives.await inTime
  have known : (asked.awaited limit).poll ≠ .pending := poll.trans_ne (Line.gives_iff.1 gives).2.1
  refine ⟨poll, ?_, ?_⟩
  · rw [sameButTrace_awaiting.lines, ← line]
    rfl
  · rw [sameButTrace_awaiting.now, if_neg known]
    exact time

/-- Waiting in vain for the slave leaves its line like a poll at the limit. -/
theorem awaiting_of_pending (later : asked.now ≤ limit)
    (nothing : (asked.lines.slave.poll limit).1 = .pending) : (asked.awaited limit).poll = .pending ∧
      (asked.awaiting limit).lines = asked.lines.set .slave (asked.lines.slave.poll limit).2.1 ∧
      (asked.awaiting limit).now = limit := by
  obtain ⟨poll, line⟩ := Line.await_of_pending later nothing
  have vain : (asked.awaited limit).poll = .pending := poll
  refine ⟨vain, ?_, ?_⟩
  · rw [sameButTrace_awaiting.lines, ← line]
    rfl
  · rw [sameButTrace_awaiting.now, if_pos vain]
    rfl

/-- Handing a frame of the slave to the master ends the exchange. -/
theorem resolving_frame {reply : Frame} (waited : Multiplexer) (story : waited.story = asked.story)
    (now : waited.now = finish) (lines : waited.lines = asked.lines.set .slave left) :
    Concludes origin finish (.frame reply) left asked
      (leftBy (resolving deadline origin mux (.frame reply) waited))
      (outcomeOf (resolving deadline origin mux (.frame reply) waited)) := by
  let announced := (waited.note (.received .slave reply)).note (.relaying reply origin)
  have whole : resolving deadline origin mux (.frame reply) waited
      = (send origin reply >>= fun _ => report (.relayed origin)) announced := rfl
  have told : (announced.offering origin reply).story
      = asked.story ++ [.received .slave reply, .relaying reply origin] := by
    simp [announced, offering, story_note, Activity.isOwn, story]
  have nowThen : (announced.offering origin reply).now = finish :=
    sameButTrace_offering.now.trans now
  have linesThen : (announced.offering origin reply).lines
      = waited.lines.set origin ((waited.lines.get origin).send waited.now reply).line :=
    sameButTrace_offering.lines
  rw [lines, now] at linesThen
  rw [whole]
  simp only [bind, EStateM.bind]
  cases written : (announced.offer origin reply).written with
  | ok bytes =>
    have sent : ((waited.lines.get origin).send waited.now reply).written = .ok bytes := written
    rw [lines, now] at sent
    have conclusion : Conclusion origin finish (asked.lines.set .slave left) (.frame reply) _ _ _ :=
      .relayed sent
    rw [← linesThen] at conclusion
    rw [send_eq_of_ok written]
    refine ⟨nowThen, _, ?_, conclusion⟩
    change ((((announced.offering origin reply).note _).note (.relayed origin))).story = _
    rw [story_note_of_isOwn _ rfl, story_note_of_isOwn _ rfl, told]
    simp
  | error cause =>
    have failed : ((waited.lines.get origin).send waited.now reply).written = .error cause := written
    rw [lines, now] at failed
    have conclusion : Conclusion origin finish (asked.lines.set .slave left) (.frame reply) _ _ _ :=
      .unsent failed
    rw [← linesThen] at conclusion
    rw [send_eq_of_error written]
    exact ⟨nowThen, _, told, conclusion⟩

/-- What the slave gives first, and within its time, ends the exchange. -/
theorem answering_concludes (gives : asked.lines.slave.Gives asked.now finish answer left)
    (inTime : finish ≤ min (asked.now + asked.routing.responseTimeout) deadline) :
    Concludes origin finish answer left asked (leftBy (answering deadline origin asked))
      (outcomeOf (answering deadline origin asked)) := by
  obtain ⟨poll, lines, now⟩ := awaiting_of_gives gives inTime
  have story := asked.story_awaiting (min (asked.now + asked.routing.responseTimeout) deadline)
  have silence := story.trans (List.append_nil _).symm
  rw [answering_eq, poll]
  cases answer with
  | pending => exact absurd rfl (Line.gives_iff.1 gives).2.1
  | ended => exact ⟨now, [], silence, lines ▸ .ended⟩
  | failure cause => exact ⟨now, [], silence, lines ▸ .unreadable⟩
  | frame reply => exact resolving_frame _ story now lines

/-- When the slave gives nothing within its time, the exchange lapses. -/
theorem answering_lapses (strict : asked.lines.slave.reader.Strict)
    (silent : ∀ finish answer left, asked.lines.slave.Gives asked.now finish answer left →
      asked.now + asked.routing.responseTimeout < finish)
    (inTime : asked.now + asked.routing.responseTimeout ≤ deadline) :
    Lapses origin asked.routing.responseTimeout asked (leftBy (answering deadline origin asked))
      (outcomeOf (answering deadline origin asked)) := by
  have later : asked.now ≤ asked.now + asked.routing.responseTimeout := Nat.le_add_right ..
  have nothing := Line.pending_of_silent later silent
  obtain ⟨poll, lines, now⟩ := awaiting_of_pending later nothing
  have story := asked.story_awaiting (asked.now + asked.routing.responseTimeout)
  rw [answering_eq, Nat.min_eq_left inTime, poll, resolving, if_pos inTime]
  generalize asked.awaiting _ = waited at lines now story
  have told : (waited.note (.timedOut origin asked.routing.responseTimeout)).story
      = asked.story ++ [.timedOut origin asked.routing.responseTimeout] := by
    rw [story_note_of_isOwn _ rfl, story]
  have slave : waited.lines.slave = (asked.lines.slave.poll _).2.1 := congrArg PerPort.slave lines
  have takes := Line.poll_takes (asked.now + asked.routing.responseTimeout) strict
  rw [nothing, ← slave] at takes
  have counted (counter : Counter) :
      (Metrics.ofTrace (waited.note (.timedOut origin asked.routing.responseTimeout)).trace).count counter
        = (Metrics.ofTrace asked.trace).count counter
          + if Counter.responseTimeouts = counter then 1 else 0 := by
    rw [count_ofTrace_eq_tally, count_ofTrace_eq_tally, told, Counter.tally_append]
    simp [Activity.counter?]
  constructor
  · rfl
  · exact now
  · exact told
  · intro port master
    change waited.lines.get port = _
    rw [lines, PerPort.get_set_of_ne _ _ master]
  · exact takes.ahead.symm
  · intro finish answer left
    change waited.lines.slave.Gives waited.now finish answer left ↔ _
    rw [slave, now]
    exact Line.gives_again later nothing
  · exact counted .responseTimeouts
  · intro counter other
    have same := counted counter
    rw [if_neg (Ne.symm other)] at same
    exact same

/-- In every state that is reached, the step that has written a request of a master ends with what the
slave gives first, and when it does, unless this is behind the time for the answer. In that case the
step ends when the time is over, and nothing comes of it but the count of a timeout. -/
theorem step_ends_by_deadline (reached : Reached routing mux)
    (selected : outcomeOf (select deadline mux) = .ok (some (origin, frame)))
    (decided : routing.decide origin frame = .forward request)
    (written : outcomeOf (asking origin request (leftBy (select deadline mux))) = .ok ()) :
    let asked := leftBy (asking origin request (leftBy (select deadline mux)))
    let limit := asked.now + routing.responseTimeout
    let after := leftBy (step deadline mux)
    let outcome := outcomeOf (step deadline mux)
    (∀ finish answer left, asked.lines.slave.Gives asked.now finish answer left →
      finish ≤ limit → finish ≤ deadline → Concludes origin finish answer left asked after outcome) ∧
    ((∀ finish answer left, asked.lines.slave.Gives asked.now finish answer left → limit < finish) →
      limit ≤ deadline → Lapses origin routing.responseTimeout asked after outcome) := by
  intro asked limit after outcome
  obtain ⟨_, _, _, choosing⟩ := select_follows deadline mux
  obtain ⟨_, _, _, passage⟩ := asking_follows origin request (leftBy (select deadline mux))
  have sound : asked.Sound routing := (reached.sound.of_passage choosing).of_passage passage
  have whole : step deadline mux = answering deadline origin asked := by
    rw [step_eq_exchange reached.sound.rules selected decided]
    exact exchange_of_asked deadline (eq_ok_of_outcomeOf written)
  have limitEq : limit = asked.now + asked.routing.responseTimeout := by rw [sound.rules]
  constructor
  · intro finish answer left gives inTime early
    simp only [after, outcome, whole]
    apply answering_concludes gives
    rw [← limitEq]
    exact Nat.le_min.2 ⟨inTime, early⟩
  · intro silent inTime
    simp only [after, outcome, whole]
    rw [limitEq] at silent inTime
    rw [← sound.rules]
    exact answering_lapses (sound.strict .slave) silent inTime

/-- A request is answered in two pieces, the first at once and the other one after a delay. -/
def cutReply (delay : Nat) : List Happening :=
  [.prepare .slave [⟨0, .bytes [0x68, 4, 4, 0x68, 0x08]⟩,
      ⟨delay, .bytes [0x5A, 0x72, 0x3C, 0x10, 0x16]⟩],
    .feed .externalMaster ⟨0, .bytes [0x10, 0x7B, 0x5A, 0xD5, 0x16]⟩]

/-- An answer that is complete at the last instant of its time is relayed, and one that is complete an
instant later is not. -/
theorem step_ends_by_deadline_at_limit :
    let deadline := 3600000
    let before := fun delay => (fresh .standard).behind (cutReply delay)
    let asked := fun delay =>
      leftBy (asking .externalMaster (.short 0x7B 0x5A) (leftBy (select deadline (before delay))))
    (∃ left, Concludes .externalMaster 2000 (.frame (.long 0x08 0x5A 0x72 [0x3C])) left (asked 2000)
      (leftBy (step deadline (before 2000))) (outcomeOf (step deadline (before 2000)))) ∧
    Lapses .externalMaster 2000 (asked 2001) (leftBy (step deadline (before 2001)))
      (outcomeOf (step deadline (before 2001))) := by
  intro deadline before asked
  have reached (delay : Nat) : Reached .standard (before delay) := Reached.fresh.behind (cutReply delay)
  have decided : Routing.standard.decide .externalMaster (.short 0x7B 0x5A)
      = .forward (.short 0x7B 0x5A) := by
    decide +kernel
  have written : ∀ delay ∈ [2000, 2001],
      outcomeOf (select deadline (before delay)) = .ok (some (.externalMaster, .short 0x7B 0x5A)) ∧
      outcomeOf (asking .externalMaster (.short 0x7B 0x5A) (leftBy (select deadline (before delay))))
        = .ok () ∧ (asked delay).now = 0 := by
    decide +kernel
  constructor
  · obtain ⟨selected, asking, start⟩ := written 2000 (by simp)
    have silent : ((asked 2000).lines.slave.poll 1999).1 = .pending := by
      decide +kernel
    have given : ((asked 2000).lines.slave.poll 2000).1 = .frame (.long 0x08 0x5A 0x72 [0x3C]) := by
      decide +kernel
    have gives : (asked 2000).lines.slave.Gives (asked 2000).now 2000
        (.frame (.long 0x08 0x5A 0x72 [0x3C])) ((asked 2000).lines.slave.poll 2000).2.1 := by
      refine Line.gives_iff.2 ⟨by omega, by simp, given, rfl, ?_⟩
      intro time _ before
      exact Line.pending_of_later (Nat.le_pred_of_lt before) silent
    obtain ⟨inTime, _⟩ := step_ends_by_deadline (reached 2000) selected decided asking
    exact ⟨_, inTime _ _ _ gives (by rw [start]; decide) (by decide)⟩
  · obtain ⟨selected, asking, start⟩ := written 2001 (by simp)
    have nothing : ((asked 2001).lines.slave.poll 2000).1 = .pending := by
      decide +kernel
    obtain ⟨_, late⟩ := step_ends_by_deadline (reached 2001) selected decided asking
    apply late
    · intro finish answer left gives
      rw [start]
      exact gives.lt_of_pending nothing
    · rw [start]
      decide

end MeterBus.Multiplexer
