import MeterBus.Proofs.Stream.Contact
import MeterBus.Proxy.Run

/-!
# Passages of the multiplexer

The story of a multiplexer is its trace without the reports of codecs and transports. A `Passage`
between two states says what was done with the lines of the ports on the way, and what was told of
it. The two accounts agree in their `Movement`s: a frame is told as received where a contact gave it,
as handed over where a contact took it, and as sent where that contact wrote it, all in one order.
Passages go on where others end.

`Follows` says that what a proceeding makes of a state is a passage of some course.
-/

namespace MeterBus

/-- What becomes of a frame on the line of a port: it is taken off, handed over, or written. -/
inductive Movement where
  | taken (port : Port) (frame : Frame)
  | handed (port : Port) (frame : Frame)
  | written (port : Port) (frame : Frame) (bytes : List UInt8)

/-- What is done with the lines of the ports, in order. -/
abbrev Contacts := List (Port × Contact)

namespace Activity

/-- Whether an activity is one of the multiplexer itself, and no report of a codec or a
transport. -/
def isOwn : Activity → Bool
  | .codec .. | .relieved .. => false
  | _ => true

/-- What an activity tells of a frame on the line of a port. -/
def movement? : Activity → Option Movement
  | .received port frame => some (.taken port frame)
  | .forwarding request _ => some (.handed .slave request)
  | .relaying reply origin => some (.handed origin reply)
  | .acknowledging port => some (.handed port .single)
  | .sent port frame bytes => some (.written port frame bytes)
  | _ => none

/-- Whether an activity announces that a frame is handed to a port next. -/
structure Announces (activity : Activity) (port : Port) (frame : Frame) : Prop where
  own : activity.isOwn = true
  handed : activity.movement? = some (.handed port frame)

/-- Whether an activity of the multiplexer has no part in what is done with the lines. -/
structure IsRemark (activity : Activity) : Prop where
  own : activity.isOwn = true
  unmoving : activity.movement? = none

/-- What is told of a frame that the slave sent too late. -/
def dropping (frame : Frame) : List Activity :=
  [.received .slave frame, .stale frame, .unexpected .slave frame]

end Activity

/-- What a contact does with a frame on the line of a port. A frame is handed over, and written if
the line does not fail. -/
def Contact.movements : Port × Contact → List Movement
  | (port, .poll _ (.frame frame)) => [.taken port frame]
  | (port, .wait _ _ _ (.frame frame)) => [.taken port frame]
  | (port, .write _ frame (.ok bytes)) => [.handed port frame, .written port frame bytes]
  | (port, .write _ frame (.error _)) => [.handed port frame]
  | _ => []

/-- Some contacts with the line of a port. -/
def Contacts.on (port : Port) (contacts : List Contact) : Contacts :=
  contacts.map fun contact => (port, contact)

@[simp] theorem Contacts.on_nil (port : Port) : Contacts.on port [] = [] := rfl

@[simp] theorem Contacts.on_cons (port : Port) (contact : Contact) (contacts : List Contact) :
    Contacts.on port (contact :: contacts) = (port, contact) :: Contacts.on port contacts := rfl

@[simp] theorem Contacts.on_append (port : Port) (contacts later : List Contact) :
    Contacts.on port (contacts ++ later) = Contacts.on port contacts ++ Contacts.on port later :=
  List.map_append

/-- The contacts with the line of one port. -/
def Contacts.withPort (port : Port) (contacts : Contacts) : List Contact :=
  contacts.filterMap fun (other, contact) => if other = port then some contact else none

/-- The contacts with a port are among all contacts. -/
theorem Contacts.mem_withPort {port : Port} {contact : Contact} {contacts : Contacts} :
    contact ∈ contacts.withPort port ↔ (port, contact) ∈ contacts := by
  simp [withPort]

/-- The contacts with a port are those of some contacts and those behind them. -/
@[simp] theorem Contacts.withPort_append (port : Port) (contacts later : Contacts) :
    Contacts.withPort port (contacts ++ later) = contacts.withPort port ++ later.withPort port :=
  List.filterMap_append

/-- Contacts with the line of one port are all with it, and none with another. -/
theorem Contacts.withPort_on (port other : Port) (contacts : List Contact) :
    (Contacts.on other contacts).withPort port = if other = port then contacts else [] := by
  rw [withPort, on, List.filterMap_map]
  change contacts.filterMap (fun contact => if other = port then some contact else none) = _
  by_cases same : other = port
  · simp [same]
  · simp [same]

/-! ## Frames that come too late -/

section Stale

variable (now : Nat) (frames : List Frame)

@[simp] theorem Activity.movement_dropping :
    (frames.flatMap dropping).filterMap movement? = frames.map (.taken .slave) := by
  rw [List.filterMap_flatMap]
  exact List.map_eq_flatMap.symm

@[simp] theorem Contact.movements_takings :
    (Contacts.on .slave (takings now frames)).flatMap movements = frames.map (.taken .slave) := by
  induction frames with
  | nil => rfl
  | cons frame frames inductionHypothesis => exact congrArg (_ :: ·) inductionHypothesis

end Stale

namespace Multiplexer

/-- What the multiplexer itself did, oldest first. -/
def story (mux : Multiplexer) : List Activity :=
  (mux.trace.reverse.map (·.activity)).filter (·.isOwn)

/-! ## Changes of the state and the story -/

variable (mux : Multiplexer) (port : Port)

@[simp] theorem story_atTime (time : Nat) : (mux.atTime time).story = mux.story := rfl

@[simp] theorem story_setLine (line : Line) : (mux.setLine port line).story = mux.story := rfl

theorem story_note (activity : Activity) :
    (mux.note activity).story = mux.story ++ [activity].filter (·.isOwn) := by
  simp [story, note]

/-- What the multiplexer itself does becomes the last of its story. -/
theorem story_note_of_isOwn {activity : Activity} (own : activity.isOwn = true) :
    (mux.note activity).story = mux.story ++ [activity] := by
  rw [story_note, List.filter_cons_of_pos own, List.filter_nil]

@[simp] theorem story_noteCodec (events : List Codec.Event) :
    (mux.noteCodec port events).story = mux.story := by
  induction events generalizing mux with
  | nil => rfl
  | cons event events inductionHypothesis =>
    refine (inductionHypothesis _).trans ?_
    simp [story_note, Activity.isOwn]

@[simp] theorem story_noteRelief (written : List UInt8) :
    (mux.noteRelief port written).story = mux.story := by
  unfold noteRelief
  split
  · rfl
  · simp [story_note, Activity.isOwn]

theorem story_noteStale (frames : List (Frame × List Codec.Event)) :
    (mux.noteStale frames).story
      = mux.story ++ (frames.map (·.1)).flatMap Activity.dropping := by
  induction frames generalizing mux with
  | nil => simp [noteStale]
  | cons frame frames inductionHypothesis =>
    refine (inductionHypothesis _).trans ?_
    simp [story_note, Activity.isOwn, Activity.dropping]

/-- What stays when activities are noted: all but the trace. -/
structure SameButTrace (before after : Multiplexer) : Prop where
  routing : after.routing = before.routing
  lines : after.lines = before.lines
  now : after.now = before.now

theorem SameButTrace.trans {before middle after : Multiplexer}
    (first : SameButTrace before middle) (second : SameButTrace middle after) :
    SameButTrace before after :=
  ⟨second.routing.trans first.routing, second.lines.trans first.lines, second.now.trans first.now⟩

/-- Reports of a codec are noted in the trace alone. -/
theorem sameButTrace_noteCodec (events : List Codec.Event) :
    SameButTrace mux (mux.noteCodec port events) := by
  induction events generalizing mux with
  | nil => exact ⟨rfl, rfl, rfl⟩
  | cons event events inductionHypothesis =>
    obtain ⟨routing, lines, now⟩ := inductionHypothesis (mux.note (.codec port event))
    exact ⟨routing, lines, now⟩

/-- A write that relieved a port is noted in the trace alone. -/
theorem sameButTrace_noteRelief (written : List UInt8) :
    SameButTrace mux (mux.noteRelief port written) := by
  unfold noteRelief
  split <;> exact ⟨rfl, rfl, rfl⟩

/-- Frames that came too late are noted in the trace alone. -/
theorem sameButTrace_noteStale (frames : List (Frame × List Codec.Event)) :
    SameButTrace mux (mux.noteStale frames) := by
  induction frames generalizing mux with
  | nil => exact ⟨rfl, rfl, rfl⟩
  | cons frame frames inductionHypothesis =>
    obtain ⟨frame, events⟩ := frame
    have noted := sameButTrace_noteCodec mux .slave events
    obtain ⟨routing, lines, now⟩ := inductionHypothesis ((((mux.noteCodec .slave events).note
      (.received .slave frame)).note (.stale frame)).note (.unexpected .slave frame))
    exact ⟨routing.trans noted.routing, lines.trans noted.lines, now.trans noted.now⟩

end Multiplexer

/-- What lies between two states of the multiplexer: what was done with the lines of the ports, and
what was told of it. -/
structure Passage (before : Multiplexer) (contacts : Contacts) (tale : List Activity)
    (after : Multiplexer) : Prop where
  routing : after.routing = before.routing
  story : after.story = before.story ++ tale
  lines : ∀ port,
    (before.lines.get port).Undergoes (contacts.withPort port) (after.lines.get port)
  /-- What becomes of every frame on the lines is told once, in order. -/
  movements : tale.filterMap Activity.movement? = contacts.flatMap Contact.movements

namespace Passage

variable {before middle after : Multiplexer} {contacts later : Contacts}
  {tale more : List Activity} {port : Port}

/-- Nothing happens to the lines, and nothing is told. -/
theorem still (routing : after.routing = before.routing) (story : after.story = before.story)
    (lines : after.lines = before.lines) : Passage before [] [] after where
  routing := routing
  story := by rw [story, List.append_nil]
  lines := by
    intro port
    rw [lines]
    rfl
  movements := rfl

/-- A passage goes on where another one ends. -/
theorem trans (first : Passage before contacts tale middle)
    (second : Passage middle later more after) :
    Passage before (contacts ++ later) (tale ++ more) after where
  routing := second.routing.trans first.routing
  story := by rw [second.story, first.story, List.append_assoc]
  lines := by
    intro port
    rw [Contacts.withPort, List.filterMap_append]
    exact (first.lines port).append (second.lines port)
  movements := by
    rw [List.filterMap_append, List.flatMap_append, first.movements, second.movements]

/-- Something is told of the multiplexer that has no part in what is done with the lines. -/
theorem told (mux : Multiplexer) {activity : Activity} (remark : activity.IsRemark) :
    Passage mux [] [activity] (mux.note activity) where
  routing := rfl
  story := mux.story_note_of_isOwn remark.own
  lines := fun _ => rfl
  movements := by simp [remark.unmoving]

/-- Some contacts with the line of one port, and what is told of them. -/
theorem of_contacts {contacts : List Contact} {line : Line}
    (undergoes : (before.lines.get port).Undergoes contacts line)
    (lines : after.lines = before.lines.set port line) (routing : after.routing = before.routing)
    (story : after.story = before.story ++ tale)
    (movements : tale.filterMap Activity.movement?
      = (Contacts.on port contacts).flatMap Contact.movements) :
    Passage before (Contacts.on port contacts) tale after where
  routing := routing
  story := story
  lines := by
    intro other
    rw [Contacts.withPort_on, lines]
    by_cases same : port = other
    · subst same
      rw [if_pos rfl, PerPort.get_set_self]
      exact undergoes
    · rw [if_neg same, PerPort.get_set_of_ne _ _ (Ne.symm same)]
      rfl
  movements := movements

/-- A contact that takes no frame and hands none over changes the line of its port, and nothing is
told of it. -/
theorem of_listening {contact : Contact} {line : Line}
    (undergoes : (before.lines.get port).Undergoes [contact] line)
    (lines : after.lines = before.lines.set port line) (routing : after.routing = before.routing)
    (story : after.story = before.story) (unmoving : Contact.movements (port, contact) = []) :
    Passage before (.on port [contact]) [] after := by
  apply of_contacts undergoes lines routing
  · rw [story, List.append_nil]
  · simp [unmoving]

/-- A contact that takes a frame changes the line of its port, and the frame is told. -/
theorem of_taking {contact : Contact} {line : Line} {frame : Frame}
    (undergoes : (before.lines.get port).Undergoes [contact] line)
    (lines : after.lines = before.lines.set port line) (routing : after.routing = before.routing)
    (story : after.story = before.story)
    (taken : Contact.movements (port, contact) = [.taken port frame]) :
    Passage before (.on port [contact]) [.received port frame]
      (after.note (.received port frame)) := by
  apply of_contacts undergoes
  · exact lines
  · exact routing
  · rw [after.story_note_of_isOwn rfl, story]
  · simp [taken, Activity.movement?]

end Passage

namespace Multiplexer

variable {α β : Type}

/-- What a proceeding comes to, apart from the state that it leaves. -/
def outcomeOf : EStateM.Result Halt Multiplexer α → Except Halt α
  | .ok value _ => .ok value
  | .error halt _ => .error halt

/-- A proceeding that comes to its end leaves a state. -/
theorem eq_ok_of_outcomeOf {result : EStateM.Result Halt Multiplexer α} {value : α}
    (comes : outcomeOf result = .ok value) : result = .ok value (leftBy result) := by
  cases result with
  | ok other after =>
    obtain rfl : other = value := Except.ok.inj comes
    rfl
  | error halt after => cases comes

/-- A proceeding that halts leaves a state as well. -/
theorem eq_error_of_outcomeOf {result : EStateM.Result Halt Multiplexer α} {halt : Halt}
    (halts : outcomeOf result = .error halt) : result = .error halt (leftBy result) := by
  cases result with
  | ok value after => cases halts
  | error other after =>
    obtain rfl : other = halt := Except.error.inj halts
    rfl

/-- Whether what becomes of a state is a passage of some course, with its outcome. -/
def Follows (course : Contacts → List Activity → Except Halt α → Prop) (mux : Multiplexer)
    (result : EStateM.Result Halt Multiplexer α) : Prop :=
  ∃ contacts tale, course contacts tale (outcomeOf result) ∧
    Passage mux contacts tale (leftBy result)

/-- What goes on behind a passage follows a course that begins with it. -/
theorem Follows.of_passage {mux middle : Multiplexer} {contacts : Contacts} {tale : List Activity}
    {whole : Contacts → List Activity → Except Halt α → Prop}
    {result : EStateM.Result Halt Multiplexer α} (passage : Passage mux contacts tale middle)
    (rest : Follows (fun later more => whole (contacts ++ later) (tale ++ more)) middle result) :
    Follows whole mux result := by
  obtain ⟨later, more, course, passageOn⟩ := rest
  exact ⟨contacts ++ later, tale ++ more, course, passage.trans passageOn⟩

/-- A proceeding that goes on as another one leaves off follows a course that does. -/
theorem Follows.bind {first : Proceeding α} {second : α → Proceeding β} {mux state : Multiplexer}
    {course : Contacts → List Activity → Except Halt α → Prop}
    {whole : Contacts → List Activity → Except Halt β → Prop}
    (one : Follows course mux (first state))
    (stop : ∀ contacts tale halt, course contacts tale (.error halt) →
      whole contacts tale (.error halt))
    (go : ∀ contacts tale value middle, course contacts tale (.ok value) →
      Passage mux contacts tale middle → first state = .ok value middle →
      Follows (fun later more => whole (contacts ++ later) (tale ++ more)) middle
        (second value middle)) :
    Follows whole mux ((first >>= second) state) := by
  obtain ⟨contacts, tale, courseOne, passage⟩ := one
  simp only [Bind.bind, EStateM.bind]
  cases result : first state with
  | error halt middle =>
    rw [result] at courseOne passage
    exact ⟨contacts, tale, stop contacts tale halt courseOne, passage⟩
  | ok value middle =>
    rw [result] at courseOne passage
    exact .of_passage passage (go contacts tale value middle courseOne passage result)

end Multiplexer

end MeterBus
