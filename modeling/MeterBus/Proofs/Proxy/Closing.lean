import MeterBus.Proofs.Proxy.Inventory
import MeterBus.Proofs.Proxy.Requests

/-!
# Ports that close

A port is listened to until a step meets its end, and never again behind that. A failure to read a port
ends the step, and the poll behind it meets an end: so a master that could not be read once gives nothing
more, whatever comes on its line. When no port is listened to any more, a step fails for that reason, and
for no other does it fail in this way.
-/

namespace MeterBus

/-! ## Readers that have failed -/

/-- A reader whose bytes are refused has failed. -/
theorem FrameReader.errored_of_settle {reader : FrameReader} {cause : LinkError}
    (given : reader.settle.1 = some (.failure cause)) : reader.settle.2.1.errored = true := by
  unfold settle at given ⊢
  split at given
  · simp at given
  · next sound =>
    split at given
    · next readable =>
      dsimp only at given ⊢
      rw [if_neg sound, if_pos readable]
      split at given
      · simp at given
      · simp
      · split at given <;> simp at given
    · simp at given

/-- A reader whose transport fails has failed. -/
theorem FrameReader.errored_of_absorb {reader : FrameReader} {chunk : Chunk} {cause : LinkError}
    (given : (reader.absorb chunk).1 = some (.failure cause)) :
    (reader.absorb chunk).2.errored = true := by
  unfold absorb at given ⊢
  split at given
  · simp at given
  · simp at given
  · rfl
  · split at given <;> simp at given

namespace Line

variable {line after : Line} {contacts : List Contact} {now : Nat} {cause : LinkError}

/-- A poll that gives a failure leaves a reader that has failed. -/
theorem errored_of_pollReader {closed : Bool} {reader : FrameReader} {arrivals : List Arrival}
    (given : (pollReader now closed reader arrivals).poll = .failure cause) :
    (pollReader now closed reader arrivals).reader.errored = true := by
  fun_induction pollReader now closed reader arrivals with
  | case1 reader arrivals poll settled events settledEq =>
    have settling := @FrameReader.errored_of_settle reader cause
    rw [settledEq] at settling
    exact settling (congrArg some given)
  | case2 reader settled events settledEq closed poll after absorbedEq =>
    have absorbing := @FrameReader.errored_of_absorb settled.makeRoom .ended cause
    rw [absorbedEq] at absorbing
    exact absorbing (congrArg some given)
  | case3 reader settled events settledEq closed after absorbedEq last =>
    apply FrameReader.errored_of_settle
    cases poll : after.settle.1 with
    | none => simp [last, poll] at given
    | some poll => simpa [last, poll] using given
  | case4 => simp at given
  | case5 reader settled events settledEq arrival later due space poll after absorbedEq =>
    have absorbing := @FrameReader.errored_of_absorb settled.makeRoom (arrival.cut space).1 cause
    rw [absorbedEq] at absorbing
    exact absorbing (congrArg some given)
  | case6 reader settled events settledEq arrival later due space after absorbedEq polled
      inductionHypothesis => exact inductionHypothesis given
  | case7 => simp at given

/-- A poll of a line whose reader has failed gives an end. -/
theorem poll_of_errored (errored : line.reader.errored = true) : (line.poll now).1 = .ended := by
  have settled : line.reader.settle
      = (some .ended, { line.reader with errored := false, readable := false }, []) := by
    rw [FrameReader.settle, if_pos errored]
  rw [poll, pollReader, settled]

end Line

namespace Multiplexer

variable {routing : Routing} {mux before after : Multiplexer} {port other : Port} {frame : Frame}
  {contacts : Contacts} {tale : List Activity} {outcome : Except Halt Unit} {decision : Decision}
  {timeout deadline now : Nat}

/-! ## Attention to one port -/

namespace Attention

variable {listening left : Bool} {contacts : List Contact}

/-- A port that is not listened to is not polled. -/
theorem of_deaf (attention : Attention false contacts left) : contacts = [] ∧ left = false := by
  cases attention with
  | idle => exact ⟨rfl, rfl⟩

/-- A port that is polled last without meeting its end is still listened to. -/
theorem of_last {time : Nat} {answer : Poll}
    (attention : Attention listening (contacts ++ [.poll time answer]) left) (going : answer ≠ .ended) :
    left = true := by
  induction contacts generalizing listening with
  | nil =>
    cases attention with
    | polled _ later =>
      cases later with
      | idle => rfl
    | ended => exact absurd rfl going
  | cons contact contacts inductionHypothesis =>
    generalize whole : contact :: contacts ++ [.poll time answer] = polls at attention
    cases attention with
    | idle => cases whole
    | polled _ later =>
      obtain ⟨_, rfl⟩ := List.cons_eq_cons.1 whole
      exact inductionHypothesis later
    | ended =>
      obtain ⟨_, rest⟩ := List.cons_eq_cons.1 whole
      simp at rest

/-- A port is not listened to any more if a poll has met its end. -/
theorem count_ended (attention : Attention listening contacts left) :
    contacts.countP (·.answer = .ended) + left.toNat = listening.toNat := by
  induction attention with
  | idle => exact Nat.zero_add _
  | polled going _ inductionHypothesis =>
    simpa [Contact.answer, going] using inductionHypothesis
  | ended => rfl

/-- A port that could not be read gives no frame, and is not listened to any more as soon as it is polled. -/
theorem of_errored {line after : Line} (attention : Attention listening contacts left)
    (undergoes : line.Undergoes contacts after) (errored : line.reader.errored = true) :
    (left = false ∨ after.reader.errored = true) ∧ Poll.frames (contacts.map Contact.answer) = [] := by
  cases attention with
  | idle =>
    obtain rfl : after = line := undergoes
    exact ⟨.inr errored, rfl⟩
  | polled going later =>
    obtain ⟨given, _⟩ := undergoes
    exact absurd (given.symm.trans (Line.poll_of_errored errored)) going
  | ended => exact ⟨.inl rfl, rfl⟩

end Attention

/-! ## What is behind the wait for a frame -/

/-- Whether these are the ports that are listened to. -/
def Listens (flags : PerPort Bool) (mux : Multiplexer) : Prop :=
  mux.listening = flags

/-- Dealing with a frame leaves the ports that are listened to as they are. -/
theorem listens_even (flags : PerPort Bool) : Even (Listens flags) where
  maintained := {
    reports := fun _ _ => rfl
    taking := fun _ _ _ _ same => same
    telling := fun _ _ _ same => same }
  passing := fun _ _ same => same
  sending := by
    intro port frame _ mux same
    have relieved (written : List UInt8) (state : Multiplexer) :
        (state.noteRelief port written).listening = state.listening := by
      unfold noteRelief
      split <;> rfl
    have offered : (mux.offering port frame).listening = flags := by
      rw [offering, listening_noteCodec, relieved]
      exact same
    cases written : (mux.offer port frame).written with
    | ok bytes =>
      rw [send_eq_of_ok written]
      exact offered
    | error cause =>
      rw [send_eq_of_error written]
      exact offered

/-- Only while a step waits for a frame, a port turns out to have ended. -/
theorem listening_step (deadline : Nat) (mux : Multiplexer) :
    (leftBy (step deadline mux)).listening = (leftBy (select deadline mux)).listening :=
  (listens_even (leftBy (select deadline mux)).listening).behind_select rfl

/-- Whether an outcome can be that of dealing with a frame: not that all ports have ended, and not that a
master cannot be read. -/
structure OfHandling (outcome : Except Halt Unit) : Prop where
  unclosed : outcome ≠ .error (.failed .allPortsClosed)
  readable : ∀ port cause, port ≠ .slave → outcome ≠ .error (.failed (.read port cause))

/-- Handing over a frame fails for want of a write. -/
theorem Handover.ofHandling {announcement : Activity} {done : List Activity}
    (handover : Handover announcement port frame done now contacts tale outcome) :
    OfHandling outcome := by
  cases handover <;> exact ⟨by simp, by simp⟩

/-- Dropping what the slave has ready fails for want of the slave. -/
theorem Check.ofHandling (check : Check now contacts tale outcome) : OfHandling outcome := by
  cases check <;> exact ⟨by simp, by simp +contextual [eq_comm]⟩

/-- Dealing with a frame fails for want of the slave or of a write. -/
theorem Treatment.ofHandling
    (treatment : Treatment timeout deadline now port frame decision contacts tale outcome) :
    OfHandling outcome := by
  cases treatment with
  | acknowledged handover => exact handover.ofHandling
  | selected handover => exact handover.ofHandling
  | forwarded exchange =>
    cases exchange with
    | unchecked check => exact check.ofHandling
    | unasked check handover => exact handover.ofHandling
    | asked check handover answering =>
      cases answering with
      | answered answer => exact answer.ofHandling
      | _ => exact ⟨by simp, by simp +contextual [eq_comm]⟩
  | ignored => exact ⟨by simp, by simp⟩
  | rejected => exact ⟨by simp, by simp⟩

/-! ## The last port -/

/-- Where no port is listened to, none is. -/
theorem anyListening_eq_false_iff :
    mux.anyListening = false ↔ ∀ port, mux.listening.get port = false := by
  rw [← Bool.not_eq_true, anyListening_iff]
  simp

/-- A search that comes to something other than nothing leaves a port that is listened to. -/
theorem Search.listening {found : Except Halt (Option (Port × Frame))}
    (search : Search contacts tale found) (attends : Attends before contacts after)
    (given : found ≠ .ok none) : after.anyListening = true := by
  have ofLast {contacts : Contacts} {port : Port} {time : Nat} {answer : Poll}
      (attends : Attends before (contacts ++ [(port, .poll time answer)]) after)
      (going : answer ≠ .ended) : after.anyListening = true := by
    have attention := attends port
    rw [Contacts.withPort_append, show Contacts.withPort port [(port, .poll time answer)]
      = [.poll time answer] by simp [Contacts.withPort]] at attention
    exact anyListening_iff.2 ⟨port, attention.of_last going⟩
  cases search with
  | nothing => exact absurd rfl given
  | failed => exact ofLast attends (by simp)
  | found => exact ofLast attends (by simp)

/-- Whether a proceeding fails because all ports have ended just when no port is listened to behind it. -/
def FailsDeaf {α : Type} (result : EStateM.Result Halt Multiplexer α) : Prop :=
  outcomeOf result = .error (.failed .allPortsClosed) ↔ (leftBy result).anyListening = false

/-- A proceeding that does not fail for that reason, and leaves a port that is listened to. -/
theorem FailsDeaf.of_listening {α : Type} {result : EStateM.Result Halt Multiplexer α}
    (unclosed : outcomeOf result ≠ .error (.failed .allPortsClosed))
    (listening : (leftBy result).anyListening = true) : FailsDeaf result := by
  rw [FailsDeaf, listening]
  simp [unclosed]

/-- Looking at the ports at some instants fails in this way just when the last of them has ended. -/
theorem takeAt_failsDeaf (deadline : Nat) (instants : List Nat) (listening : mux.anyListening = true) :
    FailsDeaf (takeAt deadline instants mux) := by
  induction instants generalizing mux with
  | nil =>
    have gaveUp : takeAt deadline [] mux = .error .abandoned (mux.atTime deadline) := rfl
    rw [gaveUp]
    exact .of_listening (by simp [outcomeOf]) listening
  | cons instant later inductionHypothesis =>
    cases cancelled : (mux.atTime instant).cancelled with
    | true =>
      rw [takeAt_of_cancelled cancelled]
      exact .of_listening (by simp [outcomeOf]) listening
    | false =>
      rw [takeAt_of_going cancelled]
      obtain ⟨contacts, tale, ⟨search, attends⟩, _⟩ :=
        takeFirst?_surveys precedence (mux.atTime instant)
      cases result : takeFirst? precedence (mux.atTime instant) with
      | error halt after =>
        rw [result] at search attends
        have listeningThen := search.listening attends (by simp [outcomeOf])
        refine .of_listening ?_ listeningThen
        cases search with
        | failed => simp [outcomeOf]
      | ok found after =>
        cases found with
        | some taken =>
          rw [result] at search attends
          exact .of_listening (by simp [outcomeOf]) (search.listening attends (by simp [outcomeOf]))
        | none =>
          dsimp only
          split
          · next listeningThen => exact inductionHypothesis listeningThen
          · next deaf =>
            rw [FailsDeaf]
            simpa [outcomeOf, leftBy] using deaf

/-- Waiting for a frame fails in this way just when no port is listened to behind it. -/
theorem select_failsDeaf (deadline : Nat) (mux : Multiplexer) : FailsDeaf (select deadline mux) := by
  cases listening : mux.anyListening with
  | true =>
    rw [select_of_listening deadline listening]
    exact takeAt_failsDeaf deadline _ listening
  | false =>
    rw [select_of_deaf deadline listening]
    exact ⟨fun _ => listening, fun _ => rfl⟩

/-- A step fails in this way just when no port is listened to behind it. -/
theorem step_failsDeaf (deadline : Nat) (mux : Multiplexer) : FailsDeaf (step deadline mux) := by
  have selecting := select_failsDeaf deadline mux
  have same : (leftBy (step deadline mux)).anyListening = (leftBy (select deadline mux)).anyListening := by
    rw [anyListening, anyListening, listening_step]
  have ofChosen {found : Option (Port × Frame)} (selected : outcomeOf (select deadline mux) = .ok found)
      (unclosed : outcomeOf (step deadline mux) ≠ .error (.failed .allPortsClosed)) :
      FailsDeaf (step deadline mux) := by
    rw [FailsDeaf, selected] at selecting
    apply FailsDeaf.of_listening unclosed
    rw [same, ← Bool.not_eq_false, ← selecting]
    simp
  cases step_onward deadline mux with
  | halted selected whole =>
    rw [FailsDeaf, selected] at selecting
    rw [whole, FailsDeaf]
    simpa [outcomeOf, leftBy] using selecting
  | idle selected whole => exact ofChosen selected (by simp [whole, outcomeOf])
  | handled selected treatment passage => exact ofChosen selected treatment.ofHandling.unclosed

/-! ## Ends are told once -/

/-- The end of a port is told for every poll that meets it. -/
theorem Idling.count_ended (idling : Idling contacts tale) (port : Port) :
    tale.count (.ended port) = (contacts.withPort port).countP (·.answer = .ended) := by
  induction idling with
  | start => rfl
  | @quiet other time _ _ _ inductionHypothesis =>
    rw [← List.singleton_append, Contacts.withPort_append, List.countP_append, ← inductionHypothesis]
    by_cases same : other = port <;> simp [Contacts.withPort, same, Contact.answer]
  | @ended other time _ _ _ inductionHypothesis =>
    rw [List.count_cons, inductionHypothesis, ← List.singleton_append, Contacts.withPort_append,
      List.countP_append]
    by_cases same : other = port <;> simp [Contacts.withPort, same, Contact.answer, Nat.add_comm]

/-- While a step waits for a frame, the end of a port is told for every poll that meets it. -/
theorem Selection.count_ended {found : Except Halt (Option (Port × Frame))}
    (selection : Selection contacts tale found) (port : Port) :
    tale.count (.ended port) = (contacts.withPort port).countP (·.answer = .ended) := by
  have last {other : Port} {time : Nat} {answer : Poll} (going : answer ≠ .ended) :
      (Contacts.withPort port [(other, .poll time answer)]).countP (·.answer = .ended) = 0 := by
    by_cases same : other = port <;> simp [Contacts.withPort, same, Contact.answer, going]
  cases selection with
  | deaf idling => exact idling.count_ended port
  | abandoned idling => exact idling.count_ended port
  | cancelled idling => simpa using idling.count_ended port
  | failed idling =>
    rw [Contacts.withPort_append, List.countP_append, last (by simp), Nat.add_zero]
    exact idling.count_ended port
  | taken idling =>
    rw [Contacts.withPort_append, List.countP_append, last (by simp), Nat.add_zero]
    simpa using idling.count_ended port

/-- Handing over a frame tells no end. -/
theorem Handover.endless {announcement : Activity} {done : List Activity}
    (announces : announcement.Announces port frame) (undone : .ended other ∉ done)
    (handover : Handover announcement port frame done now contacts tale outcome) :
    .ended other ∉ tale := by
  have distinct : Activity.ended other ≠ announcement := by
    rintro rfl
    cases announces.handed
  cases handover <;> simp [distinct, undone]

/-- Dropping what the slave has ready tells no end. -/
theorem Check.endless (check : Check now contacts tale outcome) : .ended other ∉ tale := by
  cases check <;> simp [Activity.dropping]

/-- Dealing with a frame tells no end. -/
theorem Treatment.endless
    (treatment : Treatment timeout deadline now port frame decision contacts tale outcome) :
    .ended other ∉ tale := by
  have acknowledging : (Activity.acknowledging port).Announces port .single := ⟨rfl, rfl⟩
  cases treatment with
  | acknowledged handover => exact handover.endless acknowledging (by simp)
  | selected handover =>
    rw [List.mem_cons]
    rintro (same | among)
    · cases same
    · exact handover.endless acknowledging (by simp) among
  | @forwarded request _ _ _ exchange =>
    have forwarding : (Activity.forwarding request port).Announces .slave request := ⟨rfl, rfl⟩
    cases exchange with
    | unchecked check => exact check.endless
    | unasked check handover =>
      rw [List.mem_append, not_or]
      exact ⟨check.endless, handover.endless forwarding (by simp)⟩
    | asked check handover answering =>
      rw [List.mem_append, List.mem_append, not_or, not_or]
      refine ⟨check.endless, handover.endless forwarding (by simp), ?_⟩
      cases answering with
      | @answered _ reply _ _ _ answer =>
        have relaying : (Activity.relaying reply port).Announces port reply := ⟨rfl, rfl⟩
        rw [List.mem_cons]
        rintro (same | among)
        · cases same
        · exact answer.endless relaying (by simp) among
      | _ => simp
  | ignored => simp
  | rejected => simp

/-- Whether the end of a port has been told once if it is not listened to any more, and never before. -/
def TellsEnds (mux : Multiplexer) : Prop :=
  ∀ port, mux.story.count (.ended port) + (mux.listening.get port).toNat = 1

/-- Behind the wait for a frame, no end is told. -/
theorem count_ended_step (deadline : Nat) (mux : Multiplexer) (port : Port) :
    (leftBy (step deadline mux)).story.count (.ended port)
      = (leftBy (select deadline mux)).story.count (.ended port) := by
  cases step_onward deadline mux with
  | halted selected whole => rw [whole, leftBy]
  | idle selected whole => rw [whole, leftBy]
  | handled selected treatment passage =>
    rw [passage.story, List.count_append, List.count_eq_zero_of_not_mem treatment.endless,
      Nat.add_zero]

/-- Every step tells the end of a port that is not listened to any more behind it. -/
theorem tellsEnds_step (deadline : Nat) : Keeps TellsEnds (step deadline) := by
  apply Keeps.of_left
  intro mux told port
  obtain ⟨contacts, tale, ⟨selection, attends⟩, passage⟩ := select_surveys deadline mux
  have attention := (attends port).count_ended
  have before := told port
  rw [count_ended_step, listening_step, passage.story, List.count_append, selection.count_ended]
  omega

/-- In every state that is reached, an end has been told once for each port that is not listened to. -/
theorem Reached.tellsEnds (reached : Reached routing mux) : TellsEnds mux := by
  apply reached.kept_by_steps
  · intro port
    cases port <;> rfl
  · intro before after outside told port
    rw [outside.story, outside.listening]
    exact told port
  · exact tellsEnds_step

/-! ## Masters that could not be read -/

/-- The contacts of dealing with a frame are with its port, and with the slave if it is asked. -/
theorem Treatment.bystander (stranger : other ≠ port)
    (unasked : other = .slave → ∀ request, decision ≠ .forward request)
    (treatment : Treatment timeout deadline now port frame decision contacts tale outcome) :
    contacts.withPort other = [] := by
  have ofHandover {announcement : Activity} {done : List Activity} {contacts : Contacts}
      {tale : List Activity}
      (handover : Handover announcement port .single done now contacts tale outcome) :
      contacts.withPort other = [] := by
    cases handover <;> rw [Contacts.withPort_on, if_neg (Ne.symm stranger)]
  cases treatment with
  | acknowledged handover => exact ofHandover handover
  | selected handover => exact ofHandover handover
  | @forwarded request _ _ _ exchange =>
    have master : other ≠ .slave := fun slave => unasked slave request rfl
    obtain ⟨stale, replies, consults⟩ := exchange.consults
    obtain ⟨_, _, _, _, split⟩ := consults.order
    rw [split, Contacts.withPort_append, Contacts.withPort_on, Contacts.withPort_on,
      if_neg (Ne.symm master), if_neg (Ne.symm stranger), List.append_nil]
  | ignored => rfl
  | rejected => rfl

/-- Whether a port will give no frame: it is not listened to, or its reader has failed. These frames were
taken from it before. -/
structure Silenced (port : Port) (given : List Frame) (mux : Multiplexer) : Prop where
  silent : mux.listening.get port = false ∨ (mux.lines.get port).reader.errored = true
  taken : mux.taken port = given

/-- What has no contact with a port leaves it silenced. -/
theorem Silenced.of_passage {given : List Frame} (silenced : Silenced port given before)
    (listening : after.listening = before.listening) (untouched : contacts.withPort port = [])
    (passage : Passage before contacts tale after) : Silenced port given after where
  silent := by
    have same := passage.lines port
    rw [untouched] at same
    rw [show after.lines.get port = before.lines.get port from same, listening]
    exact silenced.silent
  taken := by
    rw [taken_of_passage passage, contacts.takenFrom_eq, untouched, silenced.taken]
    exact List.append_nil _

/-- Waiting for a frame takes none from a port that is silenced. -/
theorem Silenced.behind_select {given : List Frame} (silenced : Silenced port given mux)
    (deadline : Nat) : Silenced port given (leftBy (select deadline mux)) ∧
      ∀ frame, outcomeOf (select deadline mux) ≠ .ok (some (port, frame)) := by
  obtain ⟨contacts, tale, ⟨selection, attends⟩, passage⟩ := select_surveys deadline mux
  have attention := attends port
  have undergoes := passage.lines port
  have nothing : ((leftBy (select deadline mux)).listening.get port = false ∨
      ((leftBy (select deadline mux)).lines.get port).reader.errored = true) ∧
        contacts.takenFrom port = [] := by
    rw [contacts.takenFrom_eq]
    rcases silenced.silent with deaf | errored
    · rw [deaf] at attention
      obtain ⟨untouched, deafThen⟩ := attention.of_deaf
      exact ⟨.inl deafThen, by rw [untouched]; rfl⟩
    · exact attention.of_errored undergoes errored
  obtain ⟨silent, untaken⟩ := nothing
  constructor
  · constructor
    · exact silent
    · rw [taken_of_passage passage, untaken, silenced.taken, List.append_nil]
  · intro frame selected
    rw [selected] at selection
    cases selection with
    | taken idling =>
      rw [Contacts.takenFrom_append] at untaken
      simp [Contacts.takenFrom, Contact.received?] at untaken

/-- A master that is silenced stays so in every step. -/
theorem Silenced.step {given : List Frame} (master : port ≠ .slave) (deadline : Nat) :
    Keeps (Silenced port given) (step deadline) := by
  apply Keeps.of_left
  intro mux silenced
  obtain ⟨chosen, untaken⟩ := silenced.behind_select deadline
  cases step_onward deadline mux with
  | halted selected whole =>
    rw [whole]
    exact chosen
  | idle selected whole =>
    rw [whole]
    exact chosen
  | @handled origin frame _ _ selected treatment passage =>
    have stranger : port ≠ origin := by
      rintro rfl
      exact untaken frame selected
    have untouched := treatment.bystander stranger fun slave => absurd slave master
    exact chosen.of_passage (listening_step deadline mux) untouched passage

/-- A master that is silenced stays so whatever happens. -/
theorem Silenced.behind {given : List Frame} (silenced : Silenced port given mux)
    (master : port ≠ .slave) (happenings : List Happening) :
    Silenced port given (mux.behind happenings) := by
  apply Keeps.behind _ (Silenced.step master) happenings silenced
  intro before after outside silenced
  constructor
  · rw [outside.listening, outside.reader]
    exact silenced.silent
  · rw [Multiplexer.taken, outside.story]
    exact silenced.taken

/-- A step that cannot read a master silences it. -/
theorem silenced_of_read {cause : LinkError} (master : port ≠ .slave)
    (failed : outcomeOf (step deadline mux) = .error (.failed (.read port cause))) :
    Silenced port ((leftBy (step deadline mux)).taken port) (leftBy (step deadline mux)) := by
  refine ⟨.inr ?_, rfl⟩
  cases step_onward deadline mux with
  | halted selected whole =>
    rw [whole] at failed ⊢
    obtain rfl := Except.error.inj failed
    obtain ⟨contacts, tale, selection, passage⟩ := select_follows deadline mux
    rw [selected] at selection
    cases selection with
    | @failed _ _ _ time _ idling =>
      have undergoes := passage.lines port
      rw [Contacts.withPort_append] at undergoes
      obtain ⟨middle, _, last⟩ := undergoes.of_append
      have polled : Contacts.withPort port [(port, .poll time (.failure cause))]
          = [.poll time (.failure cause)] := by simp [Contacts.withPort]
      rw [polled] at last
      obtain ⟨given, left⟩ := last
      rw [leftBy, show (leftBy (select deadline mux)).lines.get port = _ from left]
      exact Line.errored_of_pollReader given
  | idle selected whole =>
    rw [whole] at failed
    cases failed
  | handled selected treatment passage =>
    exact absurd failed (treatment.ofHandling.readable port cause master)

/-! ## Closing for good -/

/-- A port that is not listened to stays so whatever happens. -/
theorem deaf_behind (deaf : mux.listening.get port = false) (happenings : List Happening) :
    (mux.behind happenings).listening.get port = false := by
  let kept (mux : Multiplexer) : Prop := mux.listening.get port = false
  have around (before after : Multiplexer) (outside : Outside before after) (deaf : kept before) :
      kept after := (congrArg (PerPort.get · port) outside.listening).trans deaf
  apply Keeps.behind around _ happenings deaf
  intro deadline
  apply Keeps.of_left
  intro mux deaf
  change (leftBy (step deadline mux)).listening.get port = false
  obtain ⟨contacts, tale, ⟨_, attends⟩, _⟩ := select_surveys deadline mux
  have attention := attends port
  rw [deaf] at attention
  rw [listening_step]
  exact attention.of_deaf.2

/-- How the ports close, in a step and behind it. -/
structure ClosesForGood (deadline : Nat) (mux : Multiplexer) : Prop where
  /-- While a step waits for a frame, it polls a port only as long as it listens to it, which it does not
  any more behind a poll that meets its end. Nothing else in the step changes this. -/
  attention : ∃ contacts tale, Selection contacts tale (outcomeOf (select deadline mux)) ∧
    Passage mux contacts tale (leftBy (select deadline mux)) ∧
    ∀ port, Attention (mux.listening.get port) (contacts.withPort port)
      ((leftBy (step deadline mux)).listening.get port)
  /-- A port that is not listened to never is again. -/
  permanent : ∀ port, mux.listening.get port = false → ∀ happenings,
    (mux.behind happenings).listening.get port = false
  /-- A step fails because all ports have ended just when it leaves none that is listened to. -/
  deaf : outcomeOf (step deadline mux) = .error (.failed .allPortsClosed) ↔
    ∀ port, (leftBy (step deadline mux)).listening.get port = false
  /-- The end of a port has then been told once if it is not listened to any more, and never before. -/
  told : ∀ port, (leftBy (step deadline mux)).story.count (.ended port)
    = if (leftBy (step deadline mux)).listening.get port then 0 else 1
  /-- Behind a failure to read a master, no frame is ever taken from it. -/
  silenced : ∀ port cause, port ≠ .slave →
    outcomeOf (step deadline mux) = .error (.failed (.read port cause)) → ∀ happenings,
      ((leftBy (step deadline mux)).behind happenings).taken port
        = (leftBy (step deadline mux)).taken port

/-- From every state that is reached, ports that close do so for good, and a master that could not be read
gives nothing more. -/
theorem ports_close_for_good (reached : Reached routing mux) (deadline : Nat) :
    ClosesForGood deadline mux where
  attention := by
    obtain ⟨contacts, tale, ⟨selection, attends⟩, passage⟩ := select_surveys deadline mux
    refine ⟨contacts, tale, selection, passage, ?_⟩
    rw [listening_step]
    exact attends
  permanent := fun _ deaf happenings => deaf_behind deaf happenings
  deaf := by
    rw [← anyListening_eq_false_iff]
    exact step_failsDeaf deadline mux
  told := by
    intro port
    have reachedThen : Reached routing (leftBy (step deadline mux)) := .stepped deadline reached
    have told := reachedThen.tellsEnds port
    cases listening : (leftBy (step deadline mux)).listening.get port with
    | true =>
      rw [listening] at told
      exact Nat.succ.inj told
    | false =>
      rw [listening] at told
      exact told
  silenced := by
    intro port cause master failed happenings
    exact ((silenced_of_read master failed).behind master happenings).taken

/-- The external master sends a byte that begins no frame, and then a request. -/
def noiseThenRequest : List Happening :=
  [.feed .externalMaster ⟨0, .bytes [0xFF]⟩, .feed .externalMaster ⟨5, .bytes [0x10, 0x7B, 0x5A, 0xD5, 0x16]⟩]

/-- The request behind the byte that could not be read is not taken, though its bytes are on the line. -/
theorem ports_close_for_good_behind_noise :
    let mux := (fresh .standard).behind noiseThenRequest
    let after := leftBy (step 3600000 mux)
    ClosesForGood 3600000 mux ∧
      (∃ cause, outcomeOf (step 3600000 mux) = .error (.failed (.read .externalMaster cause))) ∧
      (after.behind [.elapse 10, .step 100, .step 100]).taken .externalMaster = [] ∧
      (after.lines.get .externalMaster).arrivals ≠ [] := by
  intro mux after
  have reached : Reached .standard mux := Reached.fresh.behind noiseThenRequest
  refine ⟨ports_close_for_good reached 3600000, ⟨.malformed (.unexpectedStart 0xFF), ?_⟩, ?_⟩
  · decide +kernel
  · decide +kernel

end Multiplexer

end MeterBus
