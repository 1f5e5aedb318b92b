import MeterBus.Proofs.Proxy.Reached
import MeterBus.Proofs.Proxy.Requests
import MeterBus.Proofs.Stream.Sending

/-!
# What goes out on a port

The bytes that go out on a port are those of the writes in the trace: of each frame that is sent, in a
write with what earlier failures left behind, and of writes that relieve a port of such a rest. As long as
no write has failed, there is no rest, and a step puts out the bytes of the frames that it hands over.
-/

namespace MeterBus

/-- The bytes that an activity writes to a port. -/
def Activity.writtenTo (port : Port) : Activity → List UInt8
  | .sent other _ bytes | .relieved other bytes => if other = port then bytes else []
  | _ => []

/-- Whether an activity relieves a port of what earlier failures left behind. -/
def Activity.relieves : Activity → Bool
  | .relieved .. => true
  | _ => false

/-- Whether an activity announces that a frame is handed to a port. -/
def Activity.isHanding : Activity → Bool
  | .forwarding .. | .relaying .. | .acknowledging _ => true
  | _ => false

/-- Whether an activity tells that a frame was written. -/
def Activity.isSending : Activity → Bool
  | .sent .. => true
  | _ => false

namespace Movement

/-- The bytes that a movement writes to a port. -/
def writtenTo (port : Port) : Movement → List UInt8
  | .written other _ bytes => if other = port then bytes else []
  | .taken .. | .handed .. => []

/-- Whether a movement hands a frame to a port. -/
def isHanding : Movement → Bool
  | .handed .. => true
  | .taken .. | .written .. => false

/-- Whether a movement writes a frame. -/
def isSending : Movement → Bool
  | .written .. => true
  | .taken .. | .handed .. => false

end Movement

namespace Multiplexer

variable {routing : Routing} {start mux before after : Multiplexer} {contacts : Contacts}
  {tale : List Activity} {port origin : Port} {frame request : Frame} {deadline : Nat}

/-- The bytes that went out on a port, oldest first. -/
def output (port : Port) (mux : Multiplexer) : List UInt8 :=
  mux.trace.reverse.flatMap fun entry => entry.activity.writtenTo port

/-- Whether every frame that was handed to a port was written. -/
def Unfailing (mux : Multiplexer) : Prop :=
  mux.story.countP (·.isHanding) = mux.story.countP (·.isSending)

instance (mux : Multiplexer) : Decidable mux.Unfailing := inferInstanceAs (Decidable (_ = _))

/-! ## Nothing is relieved -/

/-- Whether nothing has been told since that relieves a port. -/
def Unrelieved (start mux : Multiplexer) : Prop :=
  ∃ entries, mux.trace = entries ++ start.trace ∧ ∀ entry ∈ entries, entry.activity.relieves = false

/-- Whether nothing has been told since that relieves a port, and nothing is unsent on any. -/
structure Clear (start mux : Multiplexer) : Prop where
  unrelieved : Unrelieved start mux
  empty : ∀ port, (mux.lines.get port).unsent = []

/-- Something else can be told. -/
theorem Unrelieved.note {activity : Activity} (unrelieved : Unrelieved start mux)
    (other : activity.relieves = false) : Unrelieved start (mux.note activity) := by
  obtain ⟨entries, told, others⟩ := unrelieved
  refine ⟨⟨mux.now, activity⟩ :: entries, congrArg (_ :: ·) told, ?_⟩
  intro entry among
  rcases List.mem_cons.1 among with rfl | among
  · exact other
  · exact others entry among

/-- Something is taken off the line of a port, which leaves what is unsent where it is. -/
theorem Clear.setLine (clear : Clear start mux) (port : Port) {line : Line}
    (unsent : line.unsent = []) : Clear start (mux.setLine port line) where
  unrelieved := clear.unrelieved
  empty := by
    intro other
    change ((mux.lines.set port line).get other).unsent = []
    by_cases same : other = port
    · rw [same, PerPort.get_set_self, unsent]
    · rw [PerPort.get_set_of_ne _ _ same]
      exact clear.empty other

/-- What relieves no port can be told at any time. -/
theorem clear_upkept (start : Multiplexer) :
    Upkept (fun activity => activity.relieves = false) (Clear start) where
  reports := fun _ _ => rfl
  taking := fun port _ _ draws clear => clear.setLine port (draws.sending.1.trans (clear.empty port))
  deafening := fun _ _ clear => ⟨clear.unrelieved, clear.empty⟩
  telling := fun _ _ other clear => ⟨clear.unrelieved.note other, clear.empty⟩

/-- What relieves no port can be told of frames that are taken. -/
theorem tellsTakings_clear : TellsTakings fun activity => activity.relieves = false :=
  ⟨fun _ _ => rfl, fun _ => rfl, fun _ => rfl, fun _ _ => rfl⟩

/-- The passage of time leaves what is unsent where it is. -/
theorem Clear.atTime (clear : Clear start mux) (time : Nat) : Clear start (mux.atTime time) :=
  ⟨clear.unrelieved, clear.empty⟩

/-- What relieves no port can be told behind a failure as well. -/
theorem unrelieved_upkept (start : Multiplexer) :
    Upkept (fun activity => activity.relieves = false) (Unrelieved start) where
  reports := fun _ _ => rfl
  taking := fun _ _ _ _ unrelieved => unrelieved
  deafening := fun _ _ unrelieved => unrelieved
  telling := fun _ _ other unrelieved => unrelieved.note other

/-- Where nothing is unsent, a frame goes out in one write. If that does not fail, nothing is unsent behind
it. -/
theorem clear_send (start : Multiplexer) (port : Port) (frame : Frame) :
    Ensures (Clear start) (send port frame) (fun _ => Clear start) (Unrelieved start) := by
  intro mux clear
  have relieved : (mux.offer port frame).relieved = [] := Line.relieved_of_empty (clear.empty port)
  have offered : Unrelieved start (mux.offering port frame) := by
    rw [offering, relieved]
    exact (unrelieved_upkept start).noteCodec _ clear.unrelieved
  cases written : (mux.offer port frame).written with
  | ok bytes =>
    rw [send_eq_of_ok written]
    refine ⟨offered.note rfl, ?_⟩
    change ∀ other, ((mux.offering port frame).lines.get other).unsent = []
    rw [sameButTrace_offering.lines]
    exact (clear.setLine port (Line.unsent_of_written written)).empty
  | error cause =>
    rw [send_eq_of_error written]
    exact offered

/-- A frame is sent, and that this is done is told. -/
theorem clear_send_report (start : Multiplexer) (port : Port) (frame : Frame) {done : Activity}
    (other : done.relieves = false) :
    Ensures (Clear start) (do send port frame; report done) (fun _ => Unrelieved start)
      (Unrelieved start) := by
  apply (clear_send start port frame).bind
  exact fun _ mux clear => clear.unrelieved.note other

/-- Answering a master for the slave relieves no port. -/
theorem clear_acknowledge (start : Multiplexer) (port : Port) :
    Ensures (Clear start) (acknowledge port) (fun _ => Unrelieved start) (Unrelieved start) := by
  apply (((clear_upkept start).report rfl).halting fun _ => Clear.unrelieved).bind
  exact fun _ => clear_send_report start port .single rfl

/-- An exchange relieves no port. -/
theorem clear_exchange (start : Multiplexer) (deadline : Nat) (origin : Port) (request : Frame) :
    Ensures (Clear start) (exchange deadline origin request) (fun _ => Unrelieved start)
      (Unrelieved start) := by
  have upkept := clear_upkept start
  rw [exchange_eq]
  apply ((upkept.discardStale tellsTakings_clear).halting fun _ => Clear.unrelieved).bind
  intro _
  apply ((upkept.report rfl).halting fun _ => Clear.unrelieved).bind
  intro _
  apply (clear_send start .slave request).bind
  intro _
  apply upkept.answering
  · exact fun time _ clear => clear.atTime time
  · exact fun _ => rfl
  · exact fun _ => ⟨rfl, rfl⟩
  · exact fun reply _ => clear_send_report start origin reply rfl
  · exact fun _ => Clear.unrelieved

/-- Dealing with a frame relieves no port. -/
theorem clear_handle (start : Multiplexer) (deadline : Nat) (port : Port) (frame : Frame) :
    Ensures (Clear start) (handle deadline port frame) (fun _ => Unrelieved start)
      (Unrelieved start) := by
  intro mux clear
  rw [handle_eq]
  have upkept := clear_upkept start
  cases mux.routing.decide port frame with
  | acknowledge => exact clear_acknowledge start port mux clear
  | acknowledgeSelection =>
    apply Ensures.bind ((upkept.report rfl).halting fun _ => Clear.unrelieved) _ mux clear
    exact fun _ => clear_acknowledge start port
  | forward request => exact clear_exchange start deadline port request mux clear
  | ignore => exact clear.unrelieved.note rfl
  | reject => exact clear.unrelieved.note rfl

/-- A step relieves no port if nothing is unsent. -/
theorem clear_step (start : Multiplexer) (deadline : Nat) :
    Ensures (Clear start) (step deadline) (fun _ => Unrelieved start) (Unrelieved start) := by
  have upkept := clear_upkept start
  have selecting : Keeps (Clear start) (select deadline) :=
    upkept.select tellsTakings_clear (fun time _ clear => clear.atTime time) rfl deadline
  rw [step_eq]
  apply (selecting.halting fun _ => Clear.unrelieved).bind
  intro found
  cases found with
  | none => exact .pure _ fun _ => Clear.unrelieved
  | some taken => exact clear_handle start deadline taken.1 taken.2

/-! ## What is written is what is handed over -/

/-- Where no port is relieved, what activities write is what becomes of frames. -/
theorem flatMap_writtenTo (port : Port) {activities : List Activity}
    (others : ∀ activity ∈ activities, activity.relieves = false) :
    activities.flatMap (Activity.writtenTo port)
      = (activities.filterMap Activity.movement?).flatMap (Movement.writtenTo port) := by
  induction activities with
  | nil => rfl
  | cons activity activities inductionHypothesis =>
    have here := others activity (List.mem_cons_self ..)
    have behind := inductionHypothesis fun other among => others other (List.mem_cons_of_mem _ among)
    rw [List.flatMap_cons, behind]
    cases activity with
    | relieved => cases here
    | _ => rfl

/-- Between two states, what goes out on a port is what the contacts write, if no port is relieved. -/
theorem output_of_passage (unrelieved : Unrelieved before after)
    (passage : Passage before contacts tale after) (port : Port) :
    after.output port = before.output port
      ++ (contacts.flatMap Contact.movements).flatMap (Movement.writtenTo port) := by
  obtain ⟨entries, told, others⟩ := unrelieved
  have othersTold : ∀ activity ∈ entries.reverse.map (·.activity), activity.relieves = false := by
    simpa using others
  -- what is told besides the tale, such as reports of codecs, writes nothing
  have tale_eq : tale = (entries.reverse.map (·.activity)).filter (·.isOwn) := by
    have split := passage.story
    rw [story, story, told, List.reverse_append, List.map_append, List.filter_append] at split
    exact (List.append_cancel_left split).symm
  have moved : (entries.reverse.map (·.activity)).filterMap Activity.movement?
      = contacts.flatMap Contact.movements := by
    rw [← passage.movements, tale_eq, List.filterMap_filter]
    congr 1
    ext activity
    cases activity <;> rfl
  rw [output, told, List.reverse_append, List.flatMap_append, ← moved,
    ← flatMap_writtenTo port othersTold, List.flatMap_map]
  rfl

end Multiplexer

/-- Activities are counted as the movements that they tell of. -/
theorem Activity.countP_movement? {told : Activity → Bool} {moved : Movement → Bool}
    (activities : List Activity) (same : ∀ activity, told activity = activity.movement?.any moved) :
    activities.countP told = (activities.filterMap Activity.movement?).countP moved := by
  rw [List.countP_filterMap]
  congr 1
  ext activity
  rw [same]
  cases activity.movement? <;> rfl

/-- A contact hands over as many frames as it writes, but for one if it fails. -/
theorem Contact.count_handing (contact : Port × Contact) :
    (movements contact).countP (·.isHanding)
      = (movements contact).countP (·.isSending) + if contact.2.fails then 1 else 0 := by
  obtain ⟨port, contact⟩ := contact
  cases contact with
  | poll time given => cases given <;> rfl
  | wait start limit finish given => cases given <;> rfl
  | write time frame written => cases written <;> rfl

/-- Some contacts hand over as many frames as they write, and one more for each that fails. -/
theorem Contacts.count_handing (contacts : Contacts) :
    (contacts.flatMap Contact.movements).countP (·.isHanding)
      = (contacts.flatMap Contact.movements).countP (·.isSending)
        + contacts.countP (·.2.fails) := by
  induction contacts with
  | nil => rfl
  | cons contact others inductionHypothesis =>
    rw [List.flatMap_cons, List.countP_append, List.countP_append, Contact.count_handing,
      inductionHypothesis, List.countP_cons]
    omega

/-- Contacts that write every frame in its own bytes write those of the frames that they hand over. -/
theorem Contacts.writtenTo_eq (port : Port) (contacts : Contacts)
    (unfailing : ∀ contact ∈ contacts, contact.2.fails = false)
    (laidOut : ∀ time frame bytes, (port, .write time frame (.ok bytes)) ∈ contacts →
      bytes = frame.layout) :
    (contacts.flatMap Contact.movements).flatMap (Movement.writtenTo port)
      = (contacts.handedTo port).flatMap Frame.layout := by
  induction contacts with
  | nil => rfl
  | cons contact others inductionHypothesis =>
    have behind := inductionHypothesis
      (fun other among => unfailing other (List.mem_cons_of_mem _ among))
      fun time frame bytes among => laidOut time frame bytes (List.mem_cons_of_mem _ among)
    rw [List.flatMap_cons, List.flatMap_append, behind, ← List.singleton_append, handedTo_append,
      List.flatMap_append]
    congr 1
    have here := unfailing contact (List.mem_cons_self ..)
    obtain ⟨other, contact⟩ := contact
    cases contact with
    | poll time given => cases given <;> rfl
    | wait start limit finish given => cases given <;> rfl
    | write time frame written =>
      cases written with
      | error cause => cases here
      | ok bytes =>
        by_cases same : other = port
        · subst same
          obtain rfl : bytes = frame.layout := laidOut time frame bytes (List.mem_cons_self ..)
          simp [Contact.movements, Movement.writtenTo, handedTo, Contact.handed?]
        · simp [Contact.movements, Movement.writtenTo, handedTo, Contact.handed?, same]

namespace Multiplexer

variable {routing : Routing} {mux before after : Multiplexer} {contacts : Contacts}
  {tale : List Activity} {port : Port} {deadline : Nat}

/-! ## As long as no write has failed -/

/-- Between two states, a frame is handed over for each that is written, and for each contact that
fails. -/
theorem count_handing_of_passage (passage : Passage before contacts tale after) :
    ∃ sent, after.story.countP (·.isHanding)
        = before.story.countP (·.isHanding) + (sent + contacts.countP (·.2.fails)) ∧
      after.story.countP (·.isSending) = before.story.countP (·.isSending) + sent := by
  have handing : tale.countP (·.isHanding)
      = (tale.filterMap Activity.movement?).countP (·.isHanding) :=
    Activity.countP_movement? tale fun activity => by cases activity <;> rfl
  have sending : tale.countP (·.isSending)
      = (tale.filterMap Activity.movement?).countP (·.isSending) :=
    Activity.countP_movement? tale fun activity => by cases activity <;> rfl
  refine ⟨(contacts.flatMap Contact.movements).countP (·.isSending), ?_, ?_⟩
  · rw [passage.story, List.countP_append, handing, passage.movements, contacts.count_handing]
  · rw [passage.story, List.countP_append, sending, passage.movements]

/-- Whether frames are handed over before they are written, and nothing is unsent if each was written. -/
structure Emptied (mux : Multiplexer) : Prop where
  covered : mux.story.countP (·.isSending) ≤ mux.story.countP (·.isHanding)
  empty : mux.Unfailing → ∀ port, (mux.lines.get port).unsent = []

/-- Where no write has failed, none had before, and none has since. -/
theorem Emptied.unfailing_of_passage (emptied : before.Emptied)
    (passage : Passage before contacts tale after) (unfailing : after.Unfailing) :
    before.Unfailing ∧ ∀ contact ∈ contacts, contact.2.fails = false := by
  obtain ⟨sent, handed, written⟩ := count_handing_of_passage passage
  -- a frame that was handed over and not written is missing from the count for good
  have covered := emptied.covered
  unfold Unfailing at unfailing ⊢
  have none : contacts.countP (·.2.fails) = 0 := by omega
  constructor
  · omega
  · simpa [List.countP_eq_zero] using none

/-- What lies between two states leaves nothing unsent if no write fails. -/
theorem Emptied.of_passage (emptied : before.Emptied)
    (passage : Passage before contacts tale after) : after.Emptied where
  covered := by
    obtain ⟨sent, handed, written⟩ := count_handing_of_passage passage
    have covered := emptied.covered
    omega
  empty := by
    intro unfailing port
    obtain ⟨unfailingBefore, none⟩ := emptied.unfailing_of_passage passage unfailing
    have noneHere : ∀ contact ∈ contacts.withPort port, contact.fails = false :=
      fun contact among => none (port, contact) (Contacts.mem_withPort.1 among)
    exact ((passage.lines port).sends (emptied.empty unfailingBefore port) noneHere).1

/-- In every state that is reached, nothing is unsent if no write has failed. -/
theorem Reached.emptied (reached : Reached routing mux) : mux.Emptied := by
  apply reached.keeps
  · constructor
    · exact Nat.le_refl _
    · intro _ port
      cases port <;> rfl
  · intro before after outside emptied
    constructor
    · rw [outside.story]
      exact emptied.covered
    · intro unfailing port
      rw [Unfailing, outside.story] at unfailing
      rw [outside.unsent]
      exact emptied.empty unfailing port
  · intro before contacts tale after passage emptied
    exact emptied.of_passage passage

/-- In every state that is reached, if no write fails up to the end of a step, the step puts out the bytes of
the frames that it hands over. -/
theorem Reached.output_step (reached : Reached routing mux)
    (unfailing : (leftBy (step deadline mux)).Unfailing)
    (passage : Passage mux contacts tale (leftBy (step deadline mux)))
    (valid : ∀ port time frame written, (port, .write time frame written) ∈ contacts →
      frame.validate = .ok ()) (port : Port) :
    (leftBy (step deadline mux)).output port
      = mux.output port ++ (contacts.handedTo port).flatMap Frame.layout := by
  obtain ⟨unfailingBefore, none⟩ := reached.emptied.unfailing_of_passage passage unfailing
  have empty := reached.emptied.empty unfailingBefore
  have clear : Clear mux mux := ⟨⟨[], rfl, by simp⟩, empty⟩
  have unrelieved := (clear_step mux deadline).left clear
  have noneHere : ∀ contact ∈ contacts.withPort port, contact.fails = false :=
    fun contact among => none (port, contact) (Contacts.mem_withPort.1 among)
  rw [output_of_passage unrelieved passage, contacts.writtenTo_eq port none]
  intro time frame bytes among
  have sends := ((passage.lines port).sends (empty port) noneHere).2
  exact sends time frame bytes (Contacts.mem_withPort.2 among) (valid port time frame _ among)

end Multiplexer

end MeterBus
