import MeterBus.Proofs.Metrics.Tally
import MeterBus.Proofs.Proxy.History

/-!
# Conservation of the counters

The counters are bumped on either side of what may fail or be given up, one by one. `Balanced` says
how those of a tale belong together, with a slack for every turn that did not come to its end. It
holds of every turn, and of tales one behind the other, so that it holds of every story.
-/

namespace MeterBus

/-- How often a counter counts in a tale. -/
def Counter.tally (counter : Counter) (tale : List Activity) : Nat :=
  tale.countP fun activity => activity.counter? = some counter

namespace Counter

variable (counter : Counter) (activity : Activity) (tale more : List Activity)

@[simp] theorem tally_nil : counter.tally [] = 0 := rfl

@[simp] theorem tally_cons : counter.tally (activity :: tale)
    = counter.tally tale + if activity.counter? = some counter then 1 else 0 := by
  simp [tally, List.countP_cons]

@[simp] theorem tally_append :
    counter.tally (tale ++ more) = counter.tally tale + counter.tally more :=
  List.countP_append

variable {tale} in
/-- What counts for nothing is not in any tally. -/
theorem tally_eq_zero (uncounted : ∀ activity ∈ tale, activity.counter? = none) :
    counter.tally tale = 0 := by
  rw [tally, List.countP_eq_zero]
  intro activity among
  simp [uncounted activity among]

end Counter

/-- The counter of frames that a port gave. -/
@[simp] def Port.receivedCounter (port : Port) : Counter := .framesReceived port.name

/-- The counter of frames that were sent to a port. -/
@[simp] def Port.sentCounter (port : Port) : Counter := .framesSent port.name

/-- The counter of frames that a port gave and that have no place in the protocol. -/
@[simp] def Port.unexpectedCounter (port : Port) : Counter := .unexpectedFrames port.name

/-- Ports are told apart by their names. -/
@[simp] theorem Port.name_inj {port other : Port} : port.name = other.name ↔ port = other := by
  cases port <;> cases other <;> decide

/-- How the counters of a tale belong together, when so many calls in it did not come to their end,
the masters are owed so many frames, and so many of theirs were taken. -/
structure Balanced (lapses spent earned : Nat) (tale : List Activity) : Prop where
  /-- The masters are sent acknowledgements and answers. -/
  delivered : Port.externalMaster.sentCounter.tally tale + Port.localMaster.sentCounter.tally tale
    = Counter.localAcks.tally tale + Counter.framesForwarded.tally tale
  /-- Every exchange and every timeout comes from a request. -/
  requested : Counter.framesForwarded.tally tale + Counter.responseTimeouts.tally tale
    ≤ Port.slave.sentCounter.tally tale
  /-- Every request comes to an exchange, a timeout, or a lapse. -/
  concluded : Port.slave.sentCounter.tally tale
    ≤ Counter.framesForwarded.tally tale + Counter.responseTimeouts.tally tale + lapses
  /-- Frames of the slave are relayed, or have no place in the protocol. -/
  answered : Counter.framesForwarded.tally tale + Port.slave.unexpectedCounter.tally tale
    ≤ Port.slave.receivedCounter.tally tale
  /-- Every other frame of the slave was lost in a lapse. -/
  relayed : Port.slave.receivedCounter.tally tale
    ≤ Counter.framesForwarded.tally tale + Port.slave.unexpectedCounter.tally tale + lapses
  /-- What is done for the masters. -/
  served : Counter.localAcks.tally tale + Port.slave.sentCounter.tally tale
    + Port.externalMaster.unexpectedCounter.tally tale
    + Port.localMaster.unexpectedCounter.tally tale ≤ spent
  /-- What the masters asked for. -/
  asked : earned ≤ Port.externalMaster.receivedCounter.tally tale
    + Port.localMaster.receivedCounter.tally tale

namespace Balanced

variable {lapses lapsesThen spent spentThen earned earnedThen : Nat} {tale more : List Activity}

/-- Nothing is in balance. -/
theorem nil : Balanced 0 0 0 [] := by
  constructor <;> simp

/-- Tales that are in balance are so together. -/
theorem append (first : Balanced lapses spent earned tale)
    (second : Balanced lapsesThen spentThen earnedThen more) :
    Balanced (lapses + lapsesThen) (spent + spentThen) (earned + earnedThen) (tale ++ more) := by
  obtain ⟨delivered, requested, concluded, answered, relayed, served, asked⟩ := first
  obtain ⟨deliveredThen, requestedThen, concludedThen, answeredThen, relayedThen, servedThen,
    askedThen⟩ := second
  constructor <;> simp only [Counter.tally_append] <;> omega

/-- A balance leaves more slack than it needs to. -/
theorem mono (balanced : Balanced lapses spent earned tale) (more : lapses ≤ lapsesThen)
    (greater : spent ≤ spentThen) : Balanced lapsesThen spentThen earned tale where
  delivered := balanced.delivered
  requested := balanced.requested
  concluded := balanced.concluded.trans (Nat.add_le_add_left more _)
  answered := balanced.answered
  relayed := balanced.relayed.trans (Nat.add_le_add_left more _)
  served := balanced.served.trans greater
  asked := balanced.asked

end Balanced

namespace Multiplexer

variable {timeout deadline now : Nat} {origin port : Port} {request frame : Frame}
  {contacts : Contacts} {tale : List Activity} {outcome : Except Halt Unit}

/-- What counts for nothing is in balance. -/
theorem balanced_of_uncounted {tale : List Activity}
    (uncounted : ∀ activity ∈ tale, activity.counter? = none) : Balanced 0 0 0 tale := by
  constructor <;> simp [Counter.tally_eq_zero _ uncounted]

/-- While no frame comes, nothing is counted. -/
theorem Idling.uncounted (idling : Idling contacts tale) :
    ∀ activity ∈ tale, activity.counter? = none := by
  induction idling with
  | start => simp
  | quiet _ inductionHypothesis => exact inductionHypothesis
  | ended _ inductionHypothesis => simpa [Activity.counter?] using inductionHypothesis

/-- Frames of the slave that come too late are counted twice. -/
theorem balanced_dropping (stale : List Frame) : Balanced 0 0 0 (stale.flatMap Activity.dropping) := by
  induction stale with
  | nil => exact .nil
  | cons frame stale inductionHypothesis =>
    have one : Balanced 0 0 0 (Activity.dropping frame) := by
      constructor <;> simp [Activity.dropping, Activity.counter?, Port.sentCounter,
        Port.receivedCounter, Port.unexpectedCounter]
    exact one.append inductionHypothesis

/-- What the slave has ready is counted as having no place in the protocol. -/
theorem Check.balanced (check : Check now contacts tale outcome) : Balanced 0 0 0 tale := by
  cases check <;> exact balanced_dropping _

/-- A request that is written comes to an exchange, a timeout or a lapse. -/
theorem Answering.balanced {asking bytes} (master : origin ≠ .slave)
    (answering : Answering timeout deadline now origin contacts tale outcome)
    (asked : asking = [.forwarding request origin, .sent .slave request bytes]) :
    Balanced (lapses outcome) 1 0 (asking ++ tale) := by
  subst asked
  cases answering with
  | timedOut inTime => constructor <;> simp [Activity.counter?, lapses]
  | abandoned late => constructor <;> simp [Activity.counter?, lapses]
  | ended => constructor <;> simp [Activity.counter?, lapses]
  | unreadable => constructor <;> simp [Activity.counter?, lapses]
  | answered handover =>
    cases handover with
    | written =>
      cases origin with
      | slave => exact absurd rfl master
      | externalMaster => constructor <;> simp [Activity.counter?, lapses]
      | localMaster => constructor <;> simp [Activity.counter?, lapses]
    | unwritten => constructor <;> simp [Activity.counter?, lapses]

/-- An exchange spends one request at most. -/
theorem Exchange.balanced (master : origin ≠ .slave)
    (exchange : Exchange timeout deadline now origin request contacts tale outcome) :
    Balanced (lapses outcome) 1 0 tale := by
  cases exchange with
  | unchecked check => exact check.balanced.mono (Nat.zero_le _) (Nat.zero_le _)
  | unasked check handover =>
    have announced : Balanced 0 0 0 [.forwarding request origin] :=
      balanced_of_uncounted (by simp [Activity.counter?])
    cases handover with
    | unwritten => exact (check.balanced.append announced).mono (Nat.zero_le _) (Nat.zero_le _)
  | asked check handover answering =>
    cases handover with
    | written => simpa using check.balanced.append (answering.balanced master rfl)

/-- An acknowledgement is counted when it is sent. -/
theorem Handover.balanced_of_acknowledging (master : port ≠ .slave)
    (handover : Handover (.acknowledging port) port .single [.acknowledged port] now contacts tale
      outcome) : Balanced (lapses outcome) 1 0 tale := by
  cases handover with
  | written =>
    cases port with
    | slave => exact absurd rfl master
    | externalMaster => constructor <;> simp [Activity.counter?, lapses]
    | localMaster => constructor <;> simp [Activity.counter?, lapses]
  | unwritten => constructor <;> simp [Activity.counter?, lapses]

/-- What is done with a frame of a master spends no more than that frame earned. -/
theorem Treatment.balanced_of_master {decision : Decision} (master : port ≠ .slave)
    (treatment : Treatment timeout deadline now port frame decision contacts tale outcome) :
    Balanced (lapses outcome) 1 0 tale := by
  cases treatment with
  | acknowledged handover => exact handover.balanced_of_acknowledging master
  | selected handover =>
    have selected : Balanced 0 0 0 [.selected] :=
      balanced_of_uncounted (by simp [Activity.counter?])
    simpa using selected.append (handover.balanced_of_acknowledging master)
  | forwarded exchange => exact exchange.balanced master
  | ignored =>
    have ignored : Balanced 0 0 0 [.ignored frame] :=
      balanced_of_uncounted (by simp [Activity.counter?])
    exact ignored.mono (Nat.zero_le _) (Nat.zero_le _)
  | rejected =>
    cases port with
    | slave => exact absurd rfl master
    | externalMaster => constructor <;> simp [Activity.counter?, lapses]
    | localMaster => constructor <;> simp [Activity.counter?, lapses]

/-- What is done with a frame spends no more than that frame earned. -/
theorem Treatment.balanced {routing : Routing}
    (treatment : Treatment timeout deadline now port frame (routing.decide port frame) contacts tale
      outcome) : ∃ spent, Balanced (lapses outcome) spent spent (.received port frame :: tale) := by
  by_cases master : port ≠ .slave
  · have taken : Balanced 0 0 1 [.received port frame] := by
      cases port with
      | slave => exact absurd rfl master
      | externalMaster => constructor <;> simp [Activity.counter?]
      | localMaster => constructor <;> simp [Activity.counter?]
    have balanced := taken.append (treatment.balanced_of_master master)
    rw [Nat.zero_add] at balanced
    exact ⟨1, balanced⟩
  · obtain rfl : port = .slave := not_not.1 master
    -- no request is open, so that a frame of the slave answers none
    cases treatment with
    | rejected => exact ⟨0, by constructor <;> simp [Activity.counter?, lapses]⟩

/-- Every turn is in balance. -/
theorem Turn.balanced {routing : Routing} {found : Except Halt (Option (Port × Frame))}
    (turn : Turn routing deadline found contacts tale outcome) :
    ∃ spent, Balanced (lapses outcome) spent spent tale := by
  cases turn with
  | stopped selection =>
    cases selection with
    | deaf idling => exact ⟨0, (balanced_of_uncounted idling.uncounted).mono (Nat.zero_le _) (Nat.le_refl _)⟩
    | abandoned idling => exact ⟨0, (balanced_of_uncounted idling.uncounted).mono (Nat.zero_le _) (Nat.le_refl _)⟩
    | failed idling => exact ⟨0, (balanced_of_uncounted idling.uncounted).mono (Nat.zero_le _) (Nat.le_refl _)⟩
  | cancelled selection =>
    cases selection with
    | cancelled idling =>
      have cancelled : Balanced 0 0 0 [.cancelled] :=
        balanced_of_uncounted (by simp [Activity.counter?])
      exact ⟨0, (balanced_of_uncounted idling.uncounted).append cancelled⟩
  | handled selection treatment =>
    cases selection with
    | taken idling =>
      obtain ⟨spent, balanced⟩ := treatment.balanced
      exact ⟨spent, by simpa using (balanced_of_uncounted idling.uncounted).append balanced⟩

/-- Every chain of turns is in balance. -/
theorem Turns.balanced {routing : Routing} {failures : Nat}
    (turns : Turns routing contacts tale failures) : ∃ spent, Balanced failures spent spent tale := by
  induction turns with
  | none => exact ⟨0, .nil⟩
  | turn _ turn _ inductionHypothesis =>
    obtain ⟨spent, balanced⟩ := inductionHypothesis
    obtain ⟨spentThen, balancedThen⟩ := turn.balanced
    exact ⟨spent + spentThen, balanced.append balancedThen⟩

/-- The counters of a multiplexer are those of its story. -/
theorem count_ofTrace_eq_tally (mux : Multiplexer) (counter : Counter) :
    (Metrics.ofTrace mux.trace).count counter = counter.tally mux.story := by
  have own (activity : Activity) :
      (decide (activity.counter? = some counter) && activity.isOwn)
        = decide (activity.counter? = some counter) := by
    cases activity <;> simp [Activity.isOwn, Activity.counter?]
  rw [Metrics.count_ofTrace, Counter.tally, story, List.countP_filter, List.countP_map,
    List.countP_reverse]
  simp only [own]
  rfl

/-- Between two states a counter grows by what it counts in the tale. -/
theorem count_of_passage {before after : Multiplexer} (passage : Passage before contacts tale after)
    (counter : Counter) : (Metrics.ofTrace after.trace).count counter
      = (Metrics.ofTrace before.trace).count counter + counter.tally tale := by
  rw [count_ofTrace_eq_tally, count_ofTrace_eq_tally, passage.story, Counter.tally_append]

/-- Whatever lines a multiplexer starts on and whatever happens to it, its counters belong together:
the masters were sent acknowledgements and relayed answers, every request that was sent to the slave
and every frame of the slave is accounted for but for one at most in each call that failed or was
given up, and nothing was done that no frame of a master called for. -/
theorem counters_conserved (lines : PerPort Line) (routing : Routing)
    (happenings : List Happening) :
    let start := startingOn lines routing
    let failures := start.failures happenings
    let count := fun counter => (Metrics.ofTrace (start.behind happenings).trace).count counter
    let sent := fun port => count (.framesSent (Port.name port))
    let received := fun port => count (.framesReceived (Port.name port))
    let unexpected := fun port => count (.unexpectedFrames (Port.name port))
    (sent .externalMaster + sent .localMaster = count .localAcks + count .framesForwarded) ∧
    (count .framesForwarded + count .responseTimeouts ≤ sent .slave ∧
      sent .slave ≤ count .framesForwarded + count .responseTimeouts + failures) ∧
    (count .framesForwarded + unexpected .slave ≤ received .slave ∧
      received .slave ≤ count .framesForwarded + unexpected .slave + failures) ∧
    (count .localAcks + sent .slave + unexpected .externalMaster + unexpected .localMaster
      ≤ received .externalMaster + received .localMaster) ∧
    (failures = 0 →
      sent .slave = count .framesForwarded + count .responseTimeouts ∧
        received .slave = count .framesForwarded + unexpected .slave) := by
  intro start failures count sent received unexpected
  obtain ⟨_, contacts, turns⟩ := recounts_startingOn lines routing happenings
  obtain ⟨spent, balanced⟩ := turns.balanced
  have balanced : Balanced failures spent spent (start.behind happenings).story := balanced
  have counted (counter : Counter) : count counter = counter.tally (start.behind happenings).story :=
    count_ofTrace_eq_tally (start.behind happenings) counter
  obtain ⟨delivered, requested, concluded, answered, relayed, served, asked⟩ := balanced
  simp only [Port.sentCounter, Port.receivedCounter, Port.unexpectedCounter, ← counted]
    at delivered requested concluded answered relayed served asked
  refine ⟨delivered, ⟨requested, concluded⟩, ⟨answered, relayed⟩, served.trans asked, ?_⟩
  intro none
  rw [none] at concluded relayed
  exact ⟨le_antisymm concluded requested, le_antisymm relayed answered⟩

end Multiplexer

end MeterBus
