import MeterBus.Proofs.Proxy.Exchange

/-!
# Waiting for a frame

A step waits until a port gives a frame. While it waits, ports have nothing to give or end. `Selection`
lists the ways in which this can go. A port is polled only as long as it is listened to, and one that ends
is not listened to any more: `Attention` says how the contacts with a port and what becomes of it belong
together, and `select_surveys` that they do.
-/

namespace MeterBus.Multiplexer

variable {mux : Multiplexer} {port : Port} {frame : Frame}

/-- What waiting for a frame is made of as long as none comes. -/
inductive Idling : Contacts → List Activity → Prop where
  /-- Nothing has been looked at. -/
  | start : Idling [] []
  /-- A port has nothing to give. -/
  | quiet {port now contacts tale} (idling : Idling contacts tale) :
      Idling ((port, .poll now .pending) :: contacts) tale
  /-- A port ends, and is not listened to any more. -/
  | ended {port now contacts tale} (idling : Idling contacts tale) :
      Idling ((port, .poll now .ended) :: contacts) (.ended port :: tale)

/-- Waiting goes on as it began. -/
theorem Idling.append {contacts later : Contacts} {tale more : List Activity}
    (first : Idling contacts tale) (second : Idling later more) :
    Idling (contacts ++ later) (tale ++ more) := by
  induction first with
  | start => exact second
  | quiet _ inductionHypothesis => exact .quiet inductionHypothesis
  | ended _ inductionHypothesis => exact .ended inductionHypothesis

/-- How looking for a frame on some ports can go. -/
inductive Search : Contacts → List Activity → Except Halt (Option (Port × Frame)) → Prop where
  /-- No port gives a frame. -/
  | nothing {contacts tale} (idling : Idling contacts tale) : Search contacts tale (.ok none)
  /-- A port cannot be read. -/
  | failed {contacts tale port now cause} (idling : Idling contacts tale) :
      Search (contacts ++ [(port, .poll now (.failure cause))]) tale
        (.error (.failed (.read port cause)))
  /-- A port gives a frame. -/
  | found {contacts tale port now frame} (idling : Idling contacts tale) :
      Search (contacts ++ [(port, .poll now (.frame frame))]) (tale ++ [.received port frame])
        (.ok (some (port, frame)))

/-- A search goes on where ports had nothing to give. -/
theorem Search.behind {contacts later : Contacts} {tale more : List Activity}
    {outcome : Except Halt (Option (Port × Frame))} (idling : Idling contacts tale)
    (search : Search later more outcome) : Search (contacts ++ later) (tale ++ more) outcome := by
  cases search with
  | nothing others => exact .nothing (idling.append others)
  | failed others =>
    rw [← List.append_assoc]
    exact .failed (idling.append others)
  | found others =>
    rw [← List.append_assoc, ← List.append_assoc]
    exact .found (idling.append others)

/-- How waiting for the next frame can go. -/
inductive Selection : Contacts → List Activity → Except Halt (Option (Port × Frame)) → Prop where
  /-- Every port has ended. -/
  | deaf {contacts tale} (idling : Idling contacts tale) :
      Selection contacts tale (.error (.failed .allPortsClosed))
  /-- The caller gives up. -/
  | abandoned {contacts tale} (idling : Idling contacts tale) :
      Selection contacts tale (.error .abandoned)
  /-- The work is cancelled. -/
  | cancelled {contacts tale} (idling : Idling contacts tale) :
      Selection contacts (tale ++ [.cancelled]) (.ok none)
  /-- A port cannot be read. -/
  | failed {contacts tale port now cause} (idling : Idling contacts tale) :
      Selection (contacts ++ [(port, .poll now (.failure cause))]) tale
        (.error (.failed (.read port cause)))
  /-- A port gives a frame. -/
  | taken {contacts tale port now frame} (idling : Idling contacts tale) :
      Selection (contacts ++ [(port, .poll now (.frame frame))]) (tale ++ [.received port frame])
        (.ok (some (port, frame)))

/-- Waiting goes on where ports had nothing to give. -/
theorem Selection.behind {contacts later : Contacts} {tale more : List Activity}
    {outcome : Except Halt (Option (Port × Frame))} (idling : Idling contacts tale)
    (selection : Selection later more outcome) :
    Selection (contacts ++ later) (tale ++ more) outcome := by
  cases selection with
  | deaf others => exact .deaf (idling.append others)
  | abandoned others => exact .abandoned (idling.append others)
  | cancelled others =>
    rw [← List.append_assoc]
    exact .cancelled (idling.append others)
  | failed others =>
    rw [← List.append_assoc]
    exact .failed (idling.append others)
  | taken others =>
    rw [← List.append_assoc, ← List.append_assoc]
    exact .taken (idling.append others)

/-! ## Attention to a port -/

/-- How a port is looked at, given whether it is listened to before that and behind it. -/
inductive Attention : Bool → List Contact → Bool → Prop where
  /-- It is not looked at. -/
  | idle {listening} : Attention listening [] listening
  /-- A poll does not meet its end, so that it is listened to as before. -/
  | polled {time answer contacts listening} (going : answer ≠ .ended)
      (later : Attention true contacts listening) :
      Attention true (.poll time answer :: contacts) listening
  /-- A poll meets its end. -/
  | ended {time} : Attention true [.poll time .ended] false

/-- Attention to a port goes on as it was left. -/
theorem Attention.append {before between behind : Bool} {contacts later : List Contact}
    (first : Attention before contacts between) (second : Attention between later behind) :
    Attention before (contacts ++ later) behind := by
  induction first with
  | idle => exact second
  | polled going _ inductionHypothesis => exact .polled going (inductionHypothesis second)
  | ended =>
    cases second with
    | idle => exact .ended

/-- Whether the contacts between two states are with ports that are listened to, which they are until they
turn out to have ended. -/
def Attends (before : Multiplexer) (contacts : Contacts) (after : Multiplexer) : Prop :=
  ∀ port, Attention (before.listening.get port) (contacts.withPort port) (after.listening.get port)

/-- No port is looked at. -/
theorem Attends.still {after : Multiplexer} (same : after.listening = mux.listening) :
    Attends mux [] after := by
  intro port
  rw [same]
  exact .idle

/-- Attention goes on as it was left. -/
theorem Attends.trans {before middle after : Multiplexer} {contacts later : Contacts}
    (first : Attends before contacts middle) (second : Attends middle later after) :
    Attends before (contacts ++ later) after := by
  intro port
  rw [Contacts.withPort_append]
  exact (first port).append (second port)

/-- A port is polled that is listened to. -/
theorem Attends.of_poll {answer : Poll} {after : Multiplexer} (listening : mux.listening.get port = true)
    (attention : Attention true [.poll mux.now answer] (after.listening.get port))
    (others : ∀ other, other ≠ port → after.listening.get other = mux.listening.get other) :
    Attends mux (.on port [.poll mux.now answer]) after := by
  intro other
  rw [Contacts.withPort_on]
  by_cases same : port = other
  · subst same
    rw [if_pos rfl, listening]
    exact attention
  · rw [if_neg same, others other (Ne.symm same)]
    exact .idle

/-- Reports of a codec leave the ports that are listened to as they are. -/
@[simp] theorem listening_noteCodec (port : Port) (events : List Codec.Event) (mux : Multiplexer) :
    (mux.noteCodec port events).listening = mux.listening := by
  induction events generalizing mux with
  | nil => rfl
  | cons event events inductionHypothesis => exact inductionHypothesis _

/-- A poll that does not meet the end of a port leaves it listened to. -/
theorem Attends.of_going {answer : Poll} {after : Multiplexer}
    (listening : mux.listening.get port = true) (going : answer ≠ .ended)
    (same : after.listening = (mux.polling port).listening) :
    Attends mux (.on port [.poll mux.now answer]) after := by
  have unchanged : after.listening = mux.listening := same.trans (listening_noteCodec ..)
  apply Attends.of_poll listening
  · rw [unchanged, listening]
    exact .polled going .idle
  · intro other _
    rw [unchanged]

/-- A port that has ended is not listened to any more. -/
theorem Attends.of_ended (listening : mux.listening.get port = true) :
    Attends mux (.on port [.poll mux.now .ended])
      (((mux.polling port).note (.ended port)).deafTo port) := by
  have unchanged : (mux.polling port).listening = mux.listening := listening_noteCodec ..
  apply Attends.of_poll listening
  · change Attention true _ (((mux.polling port).listening.set port false).get port)
    rw [PerPort.get_set_self]
    exact .ended
  · intro other distinct
    change ((mux.polling port).listening.set port false).get other = _
    rw [PerPort.get_set_of_ne _ _ distinct, unchanged]

/-- Whether what becomes of a state follows a course, with attention to the ports that are listened to. -/
def Surveys {α : Type} (course : Contacts → List Activity → Except Halt α → Prop) (mux : Multiplexer)
    (result : EStateM.Result Halt Multiplexer α) : Prop :=
  Follows (fun contacts tale outcome =>
    course contacts tale outcome ∧ Attends mux contacts (leftBy result)) mux result

namespace Surveys

variable {α β : Type} {course : Contacts → List Activity → Except Halt α → Prop}
  {whole : Contacts → List Activity → Except Halt β → Prop} {first : Proceeding α}
  {second : α → Proceeding β} {middle : Multiplexer} {result : EStateM.Result Halt Multiplexer α}

/-- The course is followed, whatever the attention. -/
theorem follows (surveys : Surveys course mux result) : Follows course mux result := by
  obtain ⟨contacts, tale, ⟨course, _⟩, passage⟩ := surveys
  exact ⟨contacts, tale, course, passage⟩

/-- Nothing happens. -/
theorem still {value : α} (still : course [] [] (.ok value)) : Surveys course mux (.ok value mux) :=
  ⟨[], [], ⟨still, .still rfl⟩, .still rfl rfl rfl⟩

/-- It fails at once. -/
theorem halted {halt : Halt} (halted : course [] [] (.error halt)) :
    Surveys course mux (.error halt mux) :=
  ⟨[], [], ⟨halted, .still rfl⟩, .still rfl rfl rfl⟩

/-- What changes neither the lines nor the attention comes first. -/
theorem of_still (passage : Passage mux [] [] middle) (same : middle.listening = mux.listening)
    (rest : Surveys course middle result) : Surveys course mux result := by
  obtain ⟨contacts, tale, ⟨course, attends⟩, passageOn⟩ := rest
  exact ⟨contacts, tale, ⟨course, (Attends.still same).trans attends⟩, passage.trans passageOn⟩

/-- A proceeding that begins by looking at the state goes on from that state. -/
theorem get_bind {second : Multiplexer → Proceeding α} (rest : Surveys course mux (second mux mux)) :
    Surveys course mux ((get >>= second) mux) :=
  rest

/-- A proceeding that begins by changing the state goes on from the changed state. -/
theorem modify_bind {state : Multiplexer} {change : Multiplexer → Multiplexer}
    {second : Unit → Proceeding α} (rest : Surveys course mux (second () (change state))) :
    Surveys course mux ((modify change >>= second) state) :=
  rest

/-- A proceeding that begins by polling a port goes on with what the poll gives. -/
theorem poll_bind {second : Poll → Proceeding α}
    (rest : Surveys course mux (second ((mux.lines.get port).poll mux.now).1 (mux.polling port))) :
    Surveys course mux ((poll port >>= second) mux) :=
  rest

/-- A proceeding goes on as another one leaves off. -/
theorem bind (one : Surveys course mux (first mux))
    (stop : ∀ contacts tale halt, course contacts tale (.error halt) →
      whole contacts tale (.error halt))
    (go : ∀ contacts tale value middle, course contacts tale (.ok value) →
      Surveys (fun later more => whole (contacts ++ later) (tale ++ more)) middle
        (second value middle)) :
    Surveys whole mux ((first >>= second) mux) := by
  obtain ⟨contacts, tale, ⟨courseOne, attends⟩, passage⟩ := one
  simp only [Bind.bind, EStateM.bind]
  cases result : first mux with
  | error halt middle =>
    rw [result] at courseOne attends passage
    exact ⟨contacts, tale, ⟨stop contacts tale halt courseOne, attends⟩, passage⟩
  | ok value middle =>
    rw [result] at courseOne attends passage
    obtain ⟨later, more, ⟨courseOn, attendsOn⟩, passageOn⟩ :=
      go contacts tale value middle courseOne
    exact ⟨_, _, ⟨courseOn, attends.trans attendsOn⟩, passage.trans passageOn⟩

end Surveys

/-! ## Waiting follows its course -/

/-- A poll that gives no frame changes the line of its port, and nothing is told of it. -/
theorem polling_passage {answer : Poll} (given : ((mux.lines.get port).poll mux.now).1 = answer)
    (frameless : ∀ frame, answer ≠ .frame frame) :
    Passage mux (.on port [.poll mux.now answer]) [] (mux.polling port) := by
  have undergoes : (mux.lines.get port).Undergoes [.poll mux.now answer]
      ((mux.lines.get port).poll mux.now).2.1 := ⟨given, rfl⟩
  apply Passage.of_listening undergoes
  · exact sameButTrace_polling.lines
  · exact sameButTrace_polling.routing
  · simp [polling]
  · cases answer with
    | frame frame => exact absurd rfl (frameless frame)
    | _ => rfl

/-- A poll that gives a frame takes it off the line of its port. -/
theorem polling_passage_of_frame (given : ((mux.lines.get port).poll mux.now).1 = .frame frame) :
    Passage mux (.on port [.poll mux.now (.frame frame)]) [.received port frame]
      ((mux.polling port).note (.received port frame)) := by
  have undergoes : (mux.lines.get port).Undergoes [.poll mux.now (.frame frame)]
      ((mux.lines.get port).poll mux.now).2.1 := ⟨given, rfl⟩
  apply Passage.of_taking undergoes
  · exact sameButTrace_polling.lines
  · exact sameButTrace_polling.routing
  · simp [polling]
  · rfl

/-- Looking for a frame on one port follows the course of a search. -/
theorem take?_surveys (port : Port) (mux : Multiplexer) :
    Surveys (fun contacts tale outcome =>
        Search contacts tale (outcome.map (Option.map (port, ·)))) mux (take? port mux) := by
  apply Surveys.get_bind
  split
  · exact .still (.nothing .start)
  · next listening =>
    have listening : mux.listening.get port = true := by simpa using listening
    apply Surveys.poll_bind
    cases given : ((mux.lines.get port).poll mux.now).1 with
    | pending =>
      have attends : Attends mux (.on port [.poll mux.now .pending]) (mux.polling port) :=
        .of_going listening (by simp) rfl
      exact ⟨_, _, ⟨.nothing (.quiet .start), attends⟩, polling_passage given (by simp)⟩
    | ended =>
      have ending := polling_passage given (by simp)
      have remark : (Activity.ended port).IsRemark := ⟨rfl, rfl⟩
      have deafened : Passage ((mux.polling port).note (.ended port)) [] []
          (((mux.polling port).note (.ended port)).deafTo port) := .still rfl rfl rfl
      exact ⟨_, _, ⟨.nothing (.ended .start), .of_ended listening⟩,
        (ending.trans (.told _ remark)).trans deafened⟩
    | failure cause =>
      have attends : Attends mux (.on port [.poll mux.now (.failure cause)]) (mux.polling port) :=
        .of_going listening (by simp) rfl
      exact ⟨_, _, ⟨.failed .start, attends⟩, polling_passage given (by simp)⟩
    | frame frame =>
      have attends : Attends mux (.on port [.poll mux.now (.frame frame)])
          ((mux.polling port).note (.received port frame)) :=
        .of_going listening (by simp) rfl
      exact ⟨_, _, ⟨.found .start, attends⟩, polling_passage_of_frame given⟩

/-- Looking for a frame on some ports follows the course of a search. -/
theorem takeFirst?_surveys (ports : List Port) (mux : Multiplexer) :
    Surveys Search mux (takeFirst? ports mux) := by
  induction ports generalizing mux with
  | nil => exact .still (.nothing .start)
  | cons port others inductionHypothesis =>
    apply Surveys.bind (take?_surveys port mux)
    · intro contacts tale halt search
      cases search with
      | failed idling => exact .failed idling
    · intro contacts tale found middle search
      cases found with
      | some frame =>
        have search : Search contacts tale (.ok (some (port, frame))) := search
        have whole : Search (contacts ++ []) (tale ++ []) (.ok (some (port, frame))) := by
          simpa using search
        exact .still whole
      | none =>
        cases search with
        | nothing idling =>
          obtain ⟨later, more, ⟨searchOn, attends⟩, passage⟩ := inductionHypothesis middle
          exact ⟨later, more, ⟨searchOn.behind idling, attends⟩, passage⟩

/-- The passage of time does nothing to the lines, and nothing is told of it. -/
theorem atTime_passage (time : Nat) (mux : Multiplexer) : Passage mux [] [] (mux.atTime time) :=
  .still rfl rfl rfl

/-- Looking at the ports at some instants follows the course of a selection. -/
theorem takeAt_surveys (deadline : Nat) (instants : List Nat) (mux : Multiplexer) :
    Surveys Selection mux (takeAt deadline instants mux) := by
  induction instants generalizing mux with
  | nil => exact .of_still (atTime_passage deadline mux) rfl (.halted (.abandoned .start))
  | cons instant later inductionHypothesis =>
    rw [takeAt]
    apply Surveys.of_still (atTime_passage instant mux) rfl
    apply Surveys.modify_bind
    apply Surveys.get_bind
    split
    · have remark : Activity.cancelled.IsRemark := ⟨rfl, rfl⟩
      exact ⟨_, _, ⟨.cancelled .start, .still rfl⟩, .told _ remark⟩
    · apply Surveys.bind (takeFirst?_surveys precedence (mux.atTime instant))
      · intro contacts tale halt search
        cases search with
        | failed idling => exact .failed idling
      · intro contacts tale found middle search
        cases search with
        | @found contacts tale port now frame idling =>
          have selection : Selection (contacts ++ [(port, .poll now (.frame frame))] ++ [])
              (tale ++ [.received port frame] ++ []) (.ok (some (port, frame))) := by
            simpa using Selection.taken idling
          exact .still selection
        | nothing idling =>
          apply Surveys.get_bind
          split
          · obtain ⟨others, more, ⟨selection, attends⟩, passage⟩ := inductionHypothesis middle
            exact ⟨others, more, ⟨selection.behind idling, attends⟩, passage⟩
          · have behind := (Selection.deaf .start).behind idling
            exact .halted behind

/-- Waits for the next frame: the part of a step before it is dealt with. -/
def select (deadline : Nat) : Proceeding (Option (Port × Frame)) := do
  let mux ← get
  advanceTo mux.now
  if !mux.anyListening then fail .allPortsClosed
  takeAt deadline (mux.now :: mux.agenda deadline)

/-- A port that is not listened to is passed over. -/
theorem take?_of_deaf (deaf : mux.listening.get port = false) : take? port mux = .ok none mux := by
  have result : take? port mux = (if !(mux.listening.get port) then (pure none : Proceeding _)
      else _) mux := rfl
  rw [result, deaf]
  rfl

/-- A port that is listened to is polled. -/
theorem take?_of_listening (listening : mux.listening.get port = true) :
    take? port mux = (match ((mux.lines.get port).poll mux.now).1 with
      | .pending => .ok none (mux.polling port)
      | .ended => .ok none (((mux.polling port).note (.ended port)).deafTo port)
      | .failure cause => .error (.failed (.read port cause)) (mux.polling port)
      | .frame frame => .ok (some frame) ((mux.polling port).note (.received port frame))) := by
  have result : take? port mux = (if !(mux.listening.get port) then pure none else
      (do match ← poll port with
          | .pending => return none
          | .ended =>
            report (.ended port)
            modify (deafTo port)
            return none
          | .failure cause => fail (.read port cause)
          | .frame frame =>
            report (.received port frame)
            return some frame)) mux := rfl
  rw [result, listening]
  have polled : poll port mux
      = .ok ((mux.lines.get port).poll mux.now).1 (mux.polling port) := rfl
  simp only [Bool.not_true, Bool.false_eq_true, if_false, bind, EStateM.bind, polled]
  cases ((mux.lines.get port).poll mux.now).1 <;> rfl

/-- Nothing more is looked at behind the first port that gives a frame or cannot be read. -/
theorem takeFirst?_cons (port : Port) (others : List Port) (mux : Multiplexer) :
    takeFirst? (port :: others) mux = (match take? port mux with
      | .error halt after => .error halt after
      | .ok (some frame) after => .ok (some (port, frame)) after
      | .ok none after => takeFirst? others after) := by
  rw [takeFirst?]
  simp only [bind, EStateM.bind]
  cases take? port mux with
  | error halt after => rfl
  | ok found after => cases found <;> rfl

/-- Looking at the ports ends at an instant at which the work is cancelled. -/
theorem takeAt_of_cancelled {deadline instant : Nat} {later : List Nat}
    (cancelled : (mux.atTime instant).cancelled = true) :
    takeAt deadline (instant :: later) mux = .ok none ((mux.atTime instant).note .cancelled) := by
  have result : takeAt deadline (instant :: later) mux = (if (mux.atTime instant).cancelled then
      (do report .cancelled; return none) else _) (mux.atTime instant) := rfl
  rw [result, if_pos cancelled]
  rfl

/-- Looking at the ports goes on until there is a frame, a failure, or nothing to listen to. -/
theorem takeAt_of_going {deadline instant : Nat} {later : List Nat}
    (going : (mux.atTime instant).cancelled = false) :
    takeAt deadline (instant :: later) mux = (match takeFirst? precedence (mux.atTime instant) with
      | .error halt after => .error halt after
      | .ok (some taken) after => .ok (some taken) after
      | .ok none after =>
        if after.anyListening then takeAt deadline later after
        else .error (.failed .allPortsClosed) after) := by
  have result : takeAt deadline (instant :: later) mux = (if (mux.atTime instant).cancelled then _ else
      takeFirst? precedence >>= _) (mux.atTime instant) := rfl
  rw [result, going]
  simp only [Bool.false_eq_true, if_false, bind, EStateM.bind]
  cases takeFirst? precedence (mux.atTime instant) with
  | error halt after => rfl
  | ok found after =>
    cases found with
    | some taken => rfl
    | none =>
      change (if after.anyListening then takeAt deadline later else fail .allPortsClosed) after = _
      dsimp only
      split <;> rfl

/-- Some port is listened to. -/
theorem anyListening_iff : mux.anyListening = true ↔ ∃ port, mux.listening.get port = true := by
  constructor
  · intro listening
    simp only [anyListening, PerPort.toList, List.any_cons, List.any_nil, id, Bool.or_false,
      Bool.or_eq_true] at listening
    rcases listening with external | slave | here
    · exact ⟨.externalMaster, external⟩
    · exact ⟨.slave, slave⟩
    · exact ⟨.localMaster, here⟩
  · rintro ⟨port, listening⟩
    cases port <;> simp_all [anyListening, PerPort.toList, PerPort.get]

/-- Where some port has not ended, the ports are looked at. -/
theorem select_of_listening (deadline : Nat) (listening : mux.anyListening = true) :
    select deadline mux
      = takeAt deadline (mux.now :: mux.agenda deadline) (mux.atTime mux.now) := by
  have result : select deadline mux = (if !mux.anyListening then _ else
      takeAt deadline (mux.now :: mux.agenda deadline)) (mux.atTime mux.now) := rfl
  rw [result, listening]
  rfl

/-- Where all ports have ended, none is looked at. -/
theorem select_of_deaf (deadline : Nat) (deaf : mux.anyListening = false) :
    select deadline mux = .error (.failed .allPortsClosed) (mux.atTime mux.now) := by
  have result : select deadline mux = (if !mux.anyListening then fail .allPortsClosed else
      takeAt deadline (mux.now :: mux.agenda deadline)) (mux.atTime mux.now) := rfl
  rw [result, deaf]
  rfl

/-- A wait that comes to its end has had a port to listen to. -/
theorem anyListening_of_select {deadline : Nat} {found : Option (Port × Frame)}
    (selected : outcomeOf (select deadline mux) = .ok found) : mux.anyListening = true := by
  cases listening : mux.anyListening with
  | true => rfl
  | false =>
    rw [select_of_deaf deadline listening] at selected
    cases selected

/-- Waiting for the next frame follows its course, with attention to the ports that are listened to. -/
theorem select_surveys (deadline : Nat) (mux : Multiplexer) :
    Surveys Selection mux (select deadline mux) := by
  apply Surveys.get_bind
  apply Surveys.of_still (atTime_passage mux.now mux) rfl
  apply Surveys.modify_bind
  split
  · exact .halted (.deaf .start)
  · exact takeAt_surveys ..

/-- Waiting for the next frame follows its course. -/
theorem select_follows (deadline : Nat) (mux : Multiplexer) :
    Follows Selection mux (select deadline mux) :=
  (select_surveys deadline mux).follows

end MeterBus.Multiplexer
