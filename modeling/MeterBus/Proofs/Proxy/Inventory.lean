import MeterBus.Proofs.Proxy.Provenance
import MeterBus.Proofs.Proxy.Reached
import MeterBus.Proofs.Stream.Exhaustion

/-!
# The inventory of a port

All bytes that come on a port are accounted for: they are those of the frames that were taken from it, one
behind the other, and those that are still ahead. A wait that is given up and a poll that gives nothing
take none of them away. So whoever gets the ports back reads the frames that are left, and all of them
together are what one shot finds in the bytes that came.
-/

namespace MeterBus

/-- The frame that an activity tells to have been taken from a port. -/
def Activity.takenFrom? (port : Port) : Activity → Option Frame
  | .received other frame => if other = port then some frame else none
  | _ => none

/-- The frame of a movement that takes it off the line of a port. -/
def Movement.takenFrom? (port : Port) : Movement → Option Frame
  | .taken other frame => if other = port then some frame else none
  | .handed .. | .written .. => none

/-- The bytes that a happening puts on the line of a port by itself. -/
def Happening.fed (port : Port) : Happening → List UInt8
  | .feed other delivery => if other = port then delivery.chunk.content else []
  | _ => []

/-- The frames that some contacts take from a port move off its line. -/
theorem Contacts.takenFrom_movements (port : Port) (contacts : Contacts) :
    (contacts.flatMap Contact.movements).filterMap (Movement.takenFrom? port)
      = contacts.takenFrom port := by
  induction contacts with
  | nil => rfl
  | cons contact others inductionHypothesis =>
    rw [List.flatMap_cons, List.filterMap_append, inductionHypothesis, ← List.singleton_append,
      takenFrom_append]
    congr 1
    obtain ⟨other, contact⟩ := contact
    cases contact with
    | poll time given => cases given <;> rfl
    | wait start limit finish given => cases given <;> rfl
    | write time frame written => cases written <;> rfl

/-- The frames that some contacts take from a port are those that the contacts with it give. -/
theorem Contacts.takenFrom_eq (port : Port) (contacts : Contacts) :
    contacts.takenFrom port = Poll.frames ((contacts.withPort port).map Contact.answer) := by
  induction contacts with
  | nil => rfl
  | cons contact others inductionHypothesis =>
    obtain ⟨other, contact⟩ := contact
    have first : takenFrom port [(other, contact)]
        = Poll.frames ((withPort port [(other, contact)]).map Contact.answer) := by
      cases contact with
      | poll time given => cases given <;> cases other <;> cases port <;> rfl
      | wait start limit finish given => cases given <;> cases other <;> cases port <;> rfl
      | write time frame written => cases other <;> cases port <;> rfl
    rw [← List.singleton_append, takenFrom_append, first, inductionHypothesis, withPort, withPort,
      withPort, List.filterMap_append, List.map_append, Poll.frames_append]

/-- What lies between two states accounts for the bytes of a strict line. -/
theorem Passage.accounts {before after : Multiplexer} {contacts : Contacts} {tale : List Activity}
    {port : Port} (passage : Passage before contacts tale after)
    (strict : (before.lines.get port).reader.Strict) :
    (before.lines.get port).Accounts (contacts.takenFrom port) (after.lines.get port) := by
  rw [contacts.takenFrom_eq]
  exact (passage.lines port).accounts strict

namespace Multiplexer

/-- The frames that were taken from a port, oldest first. -/
def taken (port : Port) (mux : Multiplexer) : List Frame :=
  mux.story.filterMap (Activity.takenFrom? port)

/-- The bytes that are put on the line of a port in the course of a history: those that are fed to it, and
those of the answers that writes call forth. -/
def queued (port : Port) (mux : Multiplexer) : List Happening → List UInt8
  | [] => []
  | happening :: later =>
    let after := leftBy (happening.proceeding mux)
    happening.fed port ++ (mux.lines.get port).calledForth (after.lines.get port)
      ++ after.queued port later

variable {routing : Routing} {mux before middle after : Multiplexer} {contacts : Contacts}
  {tale : List Activity}

/-- Between two states, the frames are taken that the contacts take. -/
theorem taken_of_passage (passage : Passage before contacts tale after) (port : Port) :
    after.taken port = before.taken port ++ contacts.takenFrom port := by
  have told (activities : List Activity) : activities.filterMap (Activity.takenFrom? port)
      = (activities.filterMap Activity.movement?).filterMap (Movement.takenFrom? port) := by
    rw [List.filterMap_filterMap]
    congr 1
    ext activity : 1
    cases activity <;> rfl
  rw [taken, taken, passage.story, List.filterMap_append, told tale, passage.movements,
    contacts.takenFrom_movements]

/-- The frame that the wait for one took from a port, if it was from this one. -/
def chosenFrom (port : Port) : Except Halt (Option (Port × Frame)) → List Frame
  | .ok (some (origin, frame)) => if origin = port then [frame] else []
  | _ => []

/-- While a step waits for a frame, it takes the one that it comes to. -/
theorem Selection.takenFrom_eq {found : Except Halt (Option (Port × Frame))}
    (selection : Selection contacts tale found) (port : Port) :
    contacts.takenFrom port = chosenFrom port found := by
  have waiting {contacts : Contacts} {tale : List Activity} (idling : Idling contacts tale) :
      contacts.takenFrom port = [] := by
    rw [Contacts.takenFrom, idling.untaken]
    rfl
  cases selection with
  | deaf idling => exact waiting idling
  | abandoned idling => exact waiting idling
  | cancelled idling => exact waiting idling
  | failed idling =>
    rw [Contacts.takenFrom_append, waiting idling]
    rfl
  | @taken _ _ origin _ _ idling =>
    rw [Contacts.takenFrom_append, waiting idling]
    by_cases same : origin = port <;> simp [Contacts.takenFrom, Contact.received?, chosenFrom, same]

/-- The wait for a frame takes the one that it comes to. -/
theorem taken_select (deadline : Nat) (mux : Multiplexer) (port : Port) :
    (leftBy (select deadline mux)).taken port
      = mux.taken port ++ chosenFrom port (outcomeOf (select deadline mux)) := by
  obtain ⟨_, _, selection, passage⟩ := select_follows deadline mux
  rw [taken_of_passage passage, selection.takenFrom_eq]

/-- As many frames were received from a port as were taken from it. -/
theorem count_received_eq_length_taken (mux : Multiplexer) (port : Port) :
    (Metrics.ofTrace mux.trace).count (.framesReceived port.name) = (mux.taken port).length := by
  rw [count_ofTrace_eq_tally, Counter.tally, taken, List.length_filterMap_eq_countP]
  congr 1
  ext activity : 1
  cases activity with
  | received other frame =>
    by_cases same : other = port <;> simp [Activity.counter?, Activity.takenFrom?, same]
  | _ => simp [Activity.counter?, Activity.takenFrom?]

/-! ## The bytes of a port -/

/-- What becomes of a line when that of a port is changed. -/
theorem get_onLine (port other : Port) (change : Line → Line) (mux : Multiplexer) :
    (mux.onLine other change).lines.get port
      = if port = other then change (mux.lines.get port) else mux.lines.get port := by
  by_cases same : port = other
  · rw [if_pos same, same]
    exact PerPort.get_set_self ..
  · rw [if_neg same]
    exact PerPort.get_set_of_ne _ _ same

/-- How the bytes of a port are accounted for between two states: some frames were taken, and what is ahead
behind them was ahead before or was added. -/
def Inventoried (port : Port) (before : Multiplexer) (added : List UInt8) (after : Multiplexer) : Prop :=
  ∃ frames, after.taken port = before.taken port ++ frames ∧
    Frame.Opens ((before.lines.get port).intake.ahead ++ added) frames
      (after.lines.get port).intake.ahead

/-- Nothing has happened. -/
theorem Inventoried.refl (port : Port) (mux : Multiplexer) : Inventoried port mux [] mux :=
  ⟨[], (List.append_nil _).symm, by rw [List.append_nil]; exact .none⟩

/-- An inventory goes on where another one ends. -/
theorem Inventoried.trans {port : Port} {added more : List UInt8}
    (first : Inventoried port before added middle) (second : Inventoried port middle more after) :
    Inventoried port before (added ++ more) after := by
  obtain ⟨frames, told, opens⟩ := first
  obtain ⟨others, toldThen, opensThen⟩ := second
  refine ⟨frames ++ others, by rw [toldThen, told, List.append_assoc], ?_⟩
  rw [← List.append_assoc]
  exact (opens.append more).trans opensThen

/-- Where nothing is told, what is ahead grows by what is fed. -/
theorem Inventoried.of_fed {port : Port} {fed : List UInt8} (story : after.story = before.story)
    (reader : (after.lines.get port).reader = (before.lines.get port).reader)
    (arrivals : (after.lines.get port).arrivals.flatMap (·.chunk.content)
      = (before.lines.get port).arrivals.flatMap (·.chunk.content) ++ fed)
    (answers : (before.lines.get port).answers.length ≤ (after.lines.get port).answers.length) :
    Inventoried port before
      (fed ++ (before.lines.get port).calledForth (after.lines.get port)) after := by
  have uncalled : (before.lines.get port).calledForth (after.lines.get port) = [] := by
    rw [Line.calledForth, Nat.sub_eq_zero_of_le answers]
    rfl
  refine ⟨[], by rw [taken, story, List.append_nil]; rfl, ?_⟩
  rw [uncalled, List.append_nil, Intake.ahead, Intake.ahead, Line.intake, Line.intake, reader,
    arrivals, List.append_assoc]
  exact .none

/-- A change of a line that adds some bytes to what will arrive, and leaves its reader and its answers
where they are, feeds the port of that line. -/
theorem Inventoried.of_onLine (port other : Port) (mux : Multiplexer) (change : Line → Line)
    (extra : List UInt8) (reader : ∀ line, (change line).reader = line.reader)
    (arrivals : ∀ line, (change line).arrivals.flatMap (·.chunk.content)
      = line.arrivals.flatMap (·.chunk.content) ++ extra)
    (answers : ∀ line, line.answers.length ≤ (change line).answers.length) :
    Inventoried port mux ((if other = port then extra else []) ++
      (mux.lines.get port).calledForth ((mux.onLine other change).lines.get port))
      (mux.onLine other change) := by
  have line := get_onLine port other change mux
  apply Inventoried.of_fed
  · rfl
  · rw [line]
    split
    · exact reader _
    · rfl
  · rw [line]
    by_cases same : port = other
    · rw [if_pos same, if_pos same.symm, arrivals]
    · rw [if_neg same, if_neg (Ne.symm same), List.append_nil]
  · rw [line]
    split
    · exact answers _
    · exact Nat.le_refl _

/-- A change of a line that leaves its reader, what will arrive and its answers where they are feeds no
port. -/
theorem Inventoried.of_quiet (port other : Port) (mux : Multiplexer) (change : Line → Line)
    (reader : ∀ line, (change line).reader = line.reader)
    (arrivals : ∀ line, (change line).arrivals = line.arrivals)
    (answers : ∀ line, line.answers.length ≤ (change line).answers.length) :
    Inventoried port mux ([] ++
      (mux.lines.get port).calledForth ((mux.onLine other change).lines.get port))
      (mux.onLine other change) := by
  have quiet := Inventoried.of_onLine port other mux change [] reader
    (fun line => by rw [arrivals, List.append_nil]) answers
  rwa [ite_self] at quiet

/-- What lies between two states accounts for the bytes of a strict line. -/
theorem Inventoried.of_passage {port : Port} (strict : (before.lines.get port).reader.Strict)
    (passage : Passage before contacts tale after) :
    Inventoried port before ((before.lines.get port).calledForth (after.lines.get port)) after :=
  ⟨_, taken_of_passage passage port, (passage.accounts strict).ahead⟩

/-- A happening accounts for the bytes of a strict line. -/
theorem inventoried_proceeding (happening : Happening) (port : Port)
    (strict : (mux.lines.get port).reader.Strict) :
    let after := leftBy (happening.proceeding mux)
    Inventoried port mux
      (happening.fed port ++ (mux.lines.get port).calledForth (after.lines.get port)) after := by
  intro after
  cases happening with
  | feed other delivery =>
    apply Inventoried.of_onLine port other mux (Line.feed mux.now delivery) delivery.chunk.content
    · exact fun _ => rfl
    · intro line
      rw [Line.feed, List.flatMap_append, Delivery.content_arrivals, List.flatMap_singleton]
    · exact fun _ => Nat.le_refl _
  | close other =>
    exact .of_quiet port other mux Line.close (fun _ => rfl) (fun _ => rfl) fun _ => Nat.le_refl _
  | prepare other answer =>
    apply Inventoried.of_quiet port other mux (Line.prepare answer)
    · exact fun _ => rfl
    · exact fun _ => rfl
    · intro line
      simp [Line.prepare]
  | breakWrite other fault =>
    exact .of_quiet port other mux (Line.breakWrite fault) (fun _ => rfl) (fun _ => rfl)
      fun _ => Nat.le_refl _
  | cancel => exact .of_fed rfl rfl (List.append_nil _).symm (Nat.le_refl _)
  | cancelAfter delay => exact .of_fed rfl rfl (List.append_nil _).symm (Nat.le_refl _)
  | elapse duration => exact .of_fed rfl rfl (List.append_nil _).symm (Nat.le_refl _)
  | step patience =>
    obtain ⟨_, _, _, passage⟩ := step_follows (mux.now + patience) mux
    exact .of_passage strict passage
  | run patience =>
    obtain ⟨_, _, passage⟩ := exists_passage_stepOn (mux.now + patience) (mux.atTime mux.now)
    exact .of_passage strict ((atTime_passage mux.now mux).trans passage)

/-- A history accounts for the bytes of every port. -/
theorem Reached.inventoried (reached : Reached routing mux) (happenings : List Happening)
    (port : Port) : Inventoried port mux (mux.queued port happenings) (mux.behind happenings) := by
  induction happenings generalizing mux with
  | nil => exact .refl port mux
  | cons happening later inductionHypothesis =>
    have first := inventoried_proceeding happening port (reached.sound.strict port)
    exact first.trans (inductionHypothesis (.happened happening reached))

/-- Whatever happens to a multiplexer that starts afresh, no frame of any port is lost and none is taken
twice. At any time those that were taken from the port, as many as its counter says, and those that are
read from its line once all that is on its way has come, are together what one shot finds in the bytes
that were put on the port. -/
theorem frames_are_conserved (routing : Routing) (happenings : List Happening) (port : Port) :
    let mux := (fresh routing).behind happenings
    let line := mux.lines.get port
    (Metrics.ofTrace mux.trace).count (.framesReceived port.name) = (mux.taken port).length ∧
    ∀ later, (∀ arrival ∈ line.arrivals, arrival.due ≤ later) →
      ∃ enough, ∀ more, mux.taken port ++ Poll.frames (line.polls later (enough + more)).1
        = (Frame.oneShot ((fresh routing).queued port happenings)).frames := by
  intro mux line
  refine ⟨count_received_eq_length_taken mux port, ?_⟩
  intro later due
  have reached : Reached routing mux := Reached.fresh.behind happenings
  have arrived : line.intake.coming later = [] := by
    rw [Intake.coming, List.dropWhile_eq_nil_iff]
    intro arrival among
    exact decide_eq_true (due arrival among)
  obtain ⟨enough, given⟩ := Line.exists_polls_give (reached.sound.strict port) arrived
  have started : Reached routing (fresh routing) := .fresh
  obtain ⟨frames, told, opens⟩ := started.inventoried happenings port
  have bare : ((fresh routing).lines.get port).intake.ahead = [] := by
    cases port <;> rfl
  have untaken : (fresh routing).taken port = [] := rfl
  rw [bare, List.nil_append] at opens
  rw [untaken, List.nil_append] at told
  refine ⟨enough, fun more => ?_⟩
  rw [given more, opens.oneShot, show mux.taken port = frames from told]

/-- A request that comes in two parts, the second behind a call that was given up, is taken whole. -/
example : ((fresh .standard).behind [.feed .externalMaster ⟨0, .bytes [0x10, 0x7B]⟩, .step 5,
    .feed .externalMaster ⟨3, .bytes [0x5A, 0xD5, 0x16]⟩, .step 5]).taken .externalMaster
      = [.short 0x7B 0x5A] := by
  decide +kernel

end Multiplexer

end MeterBus
