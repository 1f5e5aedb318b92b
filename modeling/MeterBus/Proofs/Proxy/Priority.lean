import MeterBus.Proofs.Proxy.Cancellation
import MeterBus.Proofs.Proxy.Closing
import MeterBus.Proofs.Proxy.Overlooked
import MeterBus.Proofs.Proxy.Transparency

/-!
# Precedence among the ports

At every instant a step looks at the external master first, then at the local master, and at the slave
last. It takes a frame of a port only if those before it have nothing to give at that instant or have
ended. Looking at a port that has nothing to give makes no difference to what the port gives later, so
this can be said of the lines as they were when the step began. A step takes one frame of the masters at
most. What it takes from the slave besides an answer is counted as having no place in the protocol.
-/

namespace MeterBus.Multiplexer

variable {mux : Multiplexer} {port other : Port} {frame : Frame} {contacts : Contacts}
  {tale : List Activity} {outcome : Except Halt Unit} {decision : Decision} {timeout deadline now : Nat}

/-! ## Ports that are not touched -/

/-- Work that has not been cancelled is as it was when it looks at the time. -/
theorem atTime_now_of_going (going : mux.isCancelledAt mux.now = false) : mux.atTime mux.now = mux := by
  obtain ⟨_, undue⟩ := Bool.or_eq_false_iff.1 going
  simp only [atTime, undue, Bool.or_false, Bool.false_eq_true, if_false]

/-- What looking at the ports comes to if the first of them gives a frame or cannot be read. -/
inductive Heard (port : Port) (mux : Multiplexer) :
    EStateM.Result Halt Multiplexer (Option (Port × Frame)) → Prop where
  | frame {frame : Frame} (given : ((mux.lines.get port).poll mux.now).1 = .frame frame) :
      Heard port mux (.ok (some (port, frame)) ((mux.polling port).note (.received port frame)))
  | failure {cause : LinkError} (given : ((mux.lines.get port).poll mux.now).1 = .failure cause) :
      Heard port mux (.error (.failed (.read port cause)) (mux.polling port))

/-- If the external master can be heard at once, the wait for a frame ends with that. -/
theorem select_heard (deadline : Nat) (going : mux.isCancelledAt mux.now = false)
    (listening : mux.listening.get .externalMaster = true)
    (known : ((mux.lines.get .externalMaster).poll mux.now).1 ≠ .pending)
    (unended : ((mux.lines.get .externalMaster).poll mux.now).1 ≠ .ended) :
    Heard .externalMaster mux (select deadline mux) := by
  have still := atTime_now_of_going going
  have uncancelled : ((mux.atTime mux.now).atTime mux.now).cancelled = false := by
    rw [still, still]
    exact (Bool.or_eq_false_iff.1 going).1
  rw [select_of_listening deadline (anyListening_iff.2 ⟨_, listening⟩), takeAt_of_going uncancelled,
    still, still, precedence, takeFirst?_cons, take?_of_listening listening]
  cases given : ((mux.lines.get .externalMaster).poll mux.now).1 with
  | pending => exact absurd given known
  | ended => exact absurd given unended
  | failure cause => exact .failure given
  | frame frame => exact .frame given

/-- What is heard of one port leaves the lines of the others as they are. -/
theorem Heard.others {result : EStateM.Result Halt Multiplexer (Option (Port × Frame))}
    (heard : Heard port mux result) (distinct : other ≠ port) :
    (leftBy result).lines.get other = mux.lines.get other := by
  have polled : (mux.polling port).lines.get other = mux.lines.get other := by
    rw [sameButTrace_polling.lines]
    exact PerPort.get_set_of_ne _ _ distinct
  cases heard <;> exact polled

/-- Whether a step takes no frame that it forwards. -/
def Unforwarded (deadline : Nat) (mux : Multiplexer) : Prop :=
  ∀ port frame request, outcomeOf (select deadline mux) = .ok (some (port, frame)) →
    mux.routing.decide port frame ≠ .forward request

/-- If the external master can be heard at once, a step touches the line of no other port, but for the slave
if it asks it. -/
theorem untouched_of_heard (heard : Heard .externalMaster mux (select deadline mux))
    (distinct : port ≠ .externalMaster) (unasked : port = .slave → Unforwarded deadline mux) :
    (leftBy (step deadline mux)).lines.get port = mux.lines.get port := by
  have chosen := heard.others distinct
  cases step_onward deadline mux with
  | halted selected whole =>
    rw [whole]
    exact chosen
  | idle selected whole =>
    rw [whole]
    exact chosen
  | @handled origin frame _ _ selected treatment passage =>
    have external : origin = .externalMaster := by
      generalize select deadline mux = result at heard selected
      cases heard <;> cases selected
      rfl
    subst external
    have untouched := treatment.bystander distinct fun slave request =>
      unasked slave _ frame request selected
    have same := passage.lines port
    rw [untouched] at same
    exact (show _ = _ from same).trans chosen

/-! ## Frames that are taken -/

/-- While a step waits for a frame, nothing is unexpected. -/
theorem Selection.expected {found : Except Halt (Option (Port × Frame))}
    (selection : Selection contacts tale found) : port.unexpectedCounter.tally tale = 0 := by
  cases selection with
  | deaf idling => exact Counter.tally_eq_zero _ idling.uncounted
  | abandoned idling => exact Counter.tally_eq_zero _ idling.uncounted
  | failed idling => exact Counter.tally_eq_zero _ idling.uncounted
  | cancelled idling =>
    rw [Counter.tally_append, Counter.tally_eq_zero _ idling.uncounted]
    simp [Activity.counter?]
  | taken idling =>
    rw [Counter.tally_append, Counter.tally_eq_zero _ idling.uncounted]
    simp [Activity.counter?]

/-- Handing over a frame takes none. -/
theorem Handover.untaken {announcement : Activity} {done : List Activity} {outcome : Except Halt Unit}
    (handover : Handover announcement port frame done now contacts tale outcome) :
    contacts.takenFrom other = [] := by
  cases handover <;> rfl

/-- Dealing with a frame takes none from a master. -/
theorem Treatment.untaken (master : other ≠ .slave)
    (treatment : Treatment timeout deadline now port frame decision contacts tale outcome) :
    contacts.takenFrom other = [] := by
  cases treatment with
  | acknowledged handover => exact handover.untaken
  | selected handover => exact handover.untaken
  | forwarded exchange =>
    obtain ⟨stale, replies, consults⟩ := exchange.consults
    obtain ⟨_, time, written, _, split⟩ := consults.order
    have silent : Poll.frames ((replies.map fun reply =>
        Contact.write time reply written).map Contact.answer) = [] := by
      rw [List.map_map, Poll.frames, List.filterMap_map]
      exact List.filterMap_eq_nil_iff.2 fun _ _ => rfl
    rw [Contacts.takenFrom_eq, split, Contacts.withPort_append, Contacts.withPort_on,
      if_neg (Ne.symm master), Contacts.withPort_on, List.nil_append]
    split
    · exact silent
    · rfl
  | ignored => rfl
  | rejected => rfl

/-- Where the slave gives a reply, a request was written to it. -/
theorem Consults.sent {stale replies : List Frame} {request : Frame} (some : replies ≠ [])
    (consults : Consults timeout deadline now port request stale replies contacts tale outcome)
    (movements : tale.filterMap Activity.movement? = contacts.flatMap Contact.movements) :
    0 < Port.slave.sentCounter.tally tale := by
  obtain ⟨slave, _, _, consultation, split⟩ := consults.order
  have written : ∃ bytes, (Port.slave, Contact.write now request (.ok bytes)) ∈ contacts := by
    cases consultation with
    | @answered bytes =>
      refine ⟨bytes, ?_⟩
      rw [split]
      simp
    | _ => exact absurd rfl some
  obtain ⟨bytes, among⟩ := written
  have moved : Movement.written .slave request bytes ∈ tale.filterMap Activity.movement? := by
    rw [movements]
    exact List.mem_flatMap.2 ⟨_, among, by simp [Contact.movements]⟩
  obtain ⟨activity, told, same⟩ := List.mem_filterMap.1 moved
  refine List.countP_pos_iff.2 ⟨activity, told, ?_⟩
  cases activity <;> simp_all [Activity.movement?, Activity.counter?]

/-- What is taken from the slave for a master: frames that are counted as unexpected, and a reply if a
request was written. -/
theorem Treatment.takes_slave (master : port ≠ .slave)
    (treatment : Treatment timeout deadline now port frame decision contacts tale outcome)
    (movements : tale.filterMap Activity.movement? = contacts.flatMap Contact.movements) :
    ∃ dropped replies, contacts.takenFrom .slave = dropped ++ replies ∧
      Port.slave.unexpectedCounter.tally tale = dropped.length ∧
      (replies ≠ [] → 0 < Port.slave.sentCounter.tally tale) ∧
      ((∀ request, decision ≠ .forward request) → dropped = [] ∧ replies = []) := by
  have ofHandover {contacts : Contacts} {tale : List Activity} {outcome : Except Halt Unit}
      (handover : Handover (.acknowledging port) port .single [.acknowledged port] now contacts tale
        outcome) : Port.slave.unexpectedCounter.tally tale = 0 := by
    cases handover <;> simp [Activity.counter?]
  cases treatment with
  | acknowledged handover =>
    exact ⟨[], [], handover.untaken, ofHandover handover, by simp, fun _ => ⟨rfl, rfl⟩⟩
  | selected handover =>
    refine ⟨[], [], handover.untaken, ?_, by simp, fun _ => ⟨rfl, rfl⟩⟩
    rw [Counter.tally_cons, ofHandover handover]
    rfl
  | forwarded exchange =>
    obtain ⟨stale, replies, consults⟩ := exchange.consults
    exact ⟨stale, replies, consults.taken master, consults.unexpected,
      fun some => consults.sent some movements, fun other => absurd rfl (other _)⟩
  | ignored => exact ⟨[], [], rfl, rfl, by simp, fun _ => ⟨rfl, rfl⟩⟩
  | rejected =>
    refine ⟨[], [], rfl, ?_, by simp, fun _ => ⟨rfl, rfl⟩⟩
    simp [Activity.counter?, master]

/-- What a step takes from the slave: frames that are counted as unexpected, and a reply if it has written a
request. A step that forwards nothing takes one frame at most, and no reply. -/
structure TakesFromSlave (deadline : Nat) (mux : Multiplexer) (unexpected replies : List Frame) : Prop where
  taken : (leftBy (step deadline mux)).taken .slave = mux.taken .slave ++ (unexpected ++ replies)
  counted : (Metrics.ofTrace (leftBy (step deadline mux)).trace).count Port.slave.unexpectedCounter
    = (Metrics.ofTrace mux.trace).count Port.slave.unexpectedCounter + unexpected.length
  asked : replies ≠ [] → (Metrics.ofTrace mux.trace).count Port.slave.sentCounter
    < (Metrics.ofTrace (leftBy (step deadline mux)).trace).count Port.slave.sentCounter
  unforwarded : Unforwarded deadline mux → unexpected.length ≤ 1 ∧ replies = []

/-- What every step takes from the slave is told apart in this way. -/
theorem exists_takesFromSlave (deadline : Nat) (mux : Multiplexer) :
    ∃ unexpected replies, TakesFromSlave deadline mux unexpected replies := by
  obtain ⟨contacts, tale, selection, choosing⟩ := select_follows deadline mux
  have taken := taken_select deadline mux .slave
  have counted := count_of_passage choosing
  have nothing (chosen : chosenFrom .slave (outcomeOf (select deadline mux)) = [])
      (left : leftBy (step deadline mux) = leftBy (select deadline mux)) :
      TakesFromSlave deadline mux [] [] := by
    constructor
    · rw [left, taken, chosen]
      rfl
    · rw [left, counted, selection.expected, List.length_nil]
    · simp
    · simp
  cases step_onward deadline mux with
  | halted selected whole =>
    exact ⟨[], [], nothing (by rw [selected]; rfl) (by rw [whole]; rfl)⟩
  | idle selected whole =>
    exact ⟨[], [], nothing (by rw [selected]; rfl) (by rw [whole]; rfl)⟩
  | @handled origin frame _ _ selected treatment passage =>
    have takenThen := taken_of_passage passage .slave
    have countedThen := count_of_passage passage
    rw [taken, selected] at takenThen
    by_cases slave : origin = .slave
    · subst slave
      have decided : mux.routing.decide .slave frame = .reject := rfl
      rw [decided] at treatment
      generalize outcomeOf (step deadline mux) = outcome at treatment
      cases treatment with
      | rejected =>
        refine ⟨[frame], [], ?_, ?_, by simp, fun _ => ⟨le_rfl, rfl⟩⟩
        · simpa [chosenFrom, Contacts.takenFrom] using takenThen
        · rw [countedThen, counted, selection.expected]
          simp [Activity.counter?]
    · obtain ⟨unexpected, replies, split, among, asked, unasked⟩ :=
        treatment.takes_slave slave passage.movements
      have master : chosenFrom .slave (.ok (some (origin, frame))) = [] := if_neg slave
      rw [master, List.append_nil, split] at takenThen
      refine ⟨unexpected, replies, takenThen, ?_, ?_, ?_⟩
      · rw [countedThen, counted, selection.expected, among]
        rfl
      · intro some
        have written := asked some
        rw [countedThen, counted]
        omega
      · intro unforwarded
        obtain ⟨rfl, rfl⟩ := unasked fun request => unforwarded _ _ request selected
        simp

/-- What a step takes from the masters is one frame in all at most. -/
theorem exists_takesFromMasters (deadline : Nat) (mux : Multiplexer) :
    ∃ external other : List Frame,
      (leftBy (step deadline mux)).taken .externalMaster = mux.taken .externalMaster ++ external ∧
      (leftBy (step deadline mux)).taken .localMaster = mux.taken .localMaster ++ other ∧
      external.length + other.length ≤ 1 := by
  have taken (port : Port) (master : port ≠ .slave) : (leftBy (step deadline mux)).taken port
      = mux.taken port ++ chosenFrom port (outcomeOf (select deadline mux)) := by
    have chosen := taken_select deadline mux port
    cases step_onward deadline mux with
    | halted selected whole =>
      rw [whole]
      exact chosen
    | idle selected whole =>
      rw [whole]
      exact chosen
    | handled selected treatment passage =>
      rw [taken_of_passage passage port, treatment.untaken master, List.append_nil, chosen]
  refine ⟨_, _, taken .externalMaster (by decide), taken .localMaster (by decide), ?_⟩
  cases outcomeOf (select deadline mux) with
  | error halt => exact Nat.zero_le _
  | ok found =>
    cases found with
    | none => exact Nat.zero_le _
    | some chosen =>
      obtain ⟨port, frame⟩ := chosen
      cases port <;> simp [chosenFrom]

/-! ## Precedence -/

/-- The external master comes before the local master, and both come before the slave. A step that can hear
the external master at once leaves the others alone, but for the slave if it asks it. It takes one frame of
the masters at most, and nothing else from the slave than what it has asked for or counts as unexpected. -/
structure KeepsPrecedence (deadline : Nat) (mux : Multiplexer) : Prop where
  localMaster : ∀ frame, outcomeOf (select deadline mux) = .ok (some (.localMaster, frame)) →
    Silent mux .externalMaster (leftBy (select deadline mux))
  slave : ∀ frame, outcomeOf (select deadline mux) = .ok (some (.slave, frame)) →
    Silent mux .externalMaster (leftBy (select deadline mux)) ∧
      Silent mux .localMaster (leftBy (select deadline mux))
  untouched : mux.isCancelledAt mux.now = false → mux.listening.get .externalMaster = true →
    ((mux.lines.get .externalMaster).poll mux.now).1 ≠ .pending →
    ((mux.lines.get .externalMaster).poll mux.now).1 ≠ .ended →
      (leftBy (step deadline mux)).lines.get .localMaster = mux.lines.get .localMaster ∧
      (Unforwarded deadline mux →
        (leftBy (step deadline mux)).lines.get .slave = mux.lines.get .slave)
  fromMasters : ∃ external other : List Frame,
    (leftBy (step deadline mux)).taken .externalMaster = mux.taken .externalMaster ++ external ∧
    (leftBy (step deadline mux)).taken .localMaster = mux.taken .localMaster ++ other ∧
    external.length + other.length ≤ 1
  fromSlave : ∃ unexpected replies, TakesFromSlave deadline mux unexpected replies

/-- Every step keeps to the precedence of the ports. -/
theorem step_keeps_precedence (deadline : Nat) (mux : Multiplexer) : KeepsPrecedence deadline mux where
  localMaster := fun _ selected => silent_of_select selected (by decide)
  slave := fun _ selected =>
    ⟨silent_of_select selected (by decide), silent_of_select selected (by decide)⟩
  untouched := by
    intro going listening known unended
    have heard := select_heard deadline going listening known unended
    exact ⟨untouched_of_heard heard (by decide) (fun same => by cases same),
      fun unforwarded => untouched_of_heard heard (by decide) fun _ => unforwarded⟩
  fromMasters := exists_takesFromMasters deadline mux
  fromSlave := exists_takesFromSlave deadline mux

/-- Of two requests that come at one instant, that of the local master is left on its line. -/
example :
    let request : Delivery := ⟨0, .bytes [0x10, 0x7B, 0x5A, 0xD5, 0x16]⟩
    let mux := ((fresh .standard).feed .localMaster request).feed .externalMaster request
    let after := leftBy (step 100 mux)
    after.taken .externalMaster = [.short 0x7B 0x5A] ∧ after.taken .localMaster = [] ∧
      after.lines.localMaster = mux.lines.localMaster := by
  decide +kernel

end MeterBus.Multiplexer
