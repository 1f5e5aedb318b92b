import MeterBus.Proofs.Codec.Taking
import MeterBus.Proofs.Frame.Scan
import MeterBus.Stream.Line

/-!
# The receiving half of a line

The reader of a line and what will arrive for it, apart from what the line sends. `Intake.Sound` is
what holds of it between two polls when the input is made of bytes and failures of the transport and
ends once, behind all of it. `Passing` relates two such states and the answers given in between: it
says that frames, dropped bytes and failures add up, in words that do not mention where the input
was cut. It is kept by going on, so that what holds of one step holds of a whole run.
-/

namespace MeterBus

/-- The bytes of a chunk. -/
def Chunk.content : Chunk → List UInt8
  | .bytes content => content
  | .failure _ | .ended => []

/-- The failure of the transport that a chunk stands for. -/
def Chunk.outage? : Chunk → Option LinkError
  | .failure cause => some cause
  | .bytes _ | .ended => none

/-- The chunks that the transport gives before its end: bytes, and failures of its own. -/
inductive Chunk.IsInput : Chunk → Prop where
  | bytes (content : List UInt8) : IsInput (.bytes content)
  | failure (condition message : String) : IsInput (.failure (.transport condition message))

namespace Poll

/-- The frame that a poll gives. -/
def frame? : Poll → Option Frame
  | .frame given => some given
  | .pending | .ended | .failure _ => none

/-- The failure of the transport that a poll gives. -/
def outage? : Poll → Option LinkError
  | .failure (.transport condition message) => some (.transport condition message)
  | _ => none

/-- The failure of the codec that a poll gives. -/
def refusal? : Poll → Option LinkError
  | .failure (.transport _ _) => none
  | .failure cause => some cause
  | _ => none

/-- The frames among some answers. -/
def frames (answers : List Poll) : List Frame := answers.filterMap frame?

/-- The failures of the transport among some answers. -/
def outages (answers : List Poll) : List LinkError := answers.filterMap outage?

/-- The failures of the codec among some answers. -/
def refusals (answers : List Poll) : List LinkError := answers.filterMap refusal?

variable (answers others : List Poll)

@[simp] theorem frames_nil : frames [] = [] := rfl

@[simp] theorem refusals_nil : refusals [] = [] := rfl

@[simp] theorem frames_append : frames (answers ++ others) = frames answers ++ frames others :=
  List.filterMap_append

@[simp] theorem outages_append : outages (answers ++ others) = outages answers ++ outages others :=
  List.filterMap_append

@[simp] theorem refusals_append :
    refusals (answers ++ others) = refusals answers ++ refusals others :=
  List.filterMap_append

/-- Whether the answers tell the end of the input: one of them reports this refusal, if there is
one, none before it reports a truncation, and behind it comes only the end of the stream. -/
def Conclude (refusal? : Option LinkError) (answers : List Poll) : Prop :=
  ∃ earlier last ends, answers = earlier ++ last :: ends ∧ .truncated ∉ refusals earlier ∧
    last.refusal? = refusal? ∧ ∀ answer ∈ ends, answer = .ended

end Poll

/-- What a strict codec reports about the bytes behind the frames. -/
def Frame.Shot.refusal? (shot : Shot) : Option LinkError :=
  match shot.stop with
  | .invalid cause => some (.malformed cause)
  | .incomplete _ => if shot.rest = [] then none else some .truncated

/-- The receiving half of a line. -/
structure Intake where
  reader : FrameReader
  arrivals : List Arrival

namespace Intake

/-- The bytes that were received and not given on, and those that will arrive. -/
def ahead (intake : Intake) : List UInt8 :=
  intake.reader.buffer ++ intake.arrivals.flatMap (·.chunk.content)

/-- The failures that will arrive. -/
def outages (intake : Intake) : List LinkError :=
  intake.arrivals.filterMap (·.chunk.outage?)

/-- Whether the codec has said its last word about the buffer, at the end of the input. -/
def Reported (intake : Intake) : Prop :=
  intake.reader.ended = true ∧ (intake.reader.readable = false ∨ intake.reader.errored = true)

/-- Whether nothing but the end of the stream will be given. -/
def Exhausted (intake : Intake) : Prop :=
  intake.reader.ended = true ∧ intake.reader.readable = false ∧ intake.reader.errored = false

/-- What holds between two polls. -/
structure Sound (now : Nat) (intake : Intake) : Prop where
  remembers : intake.reader.codec.Remembers intake.reader.buffer
  /-- A reader that waits for more bytes has no frame in its buffer. -/
  resting : intake.reader.readable = false ∨ intake.reader.errored = true →
    ∃ reason, Frame.read intake.reader.buffer = .error reason
  /-- A resynchronising codec leaves nothing behind. -/
  emptied : intake.reader.codec.resync = true → intake.Reported → intake.reader.buffer = []
  /-- There was room when the end of the input was met. -/
  roomy : intake.reader.ended = true → 0 < intake.reader.storage.free
  arriving : ∀ arrival ∈ intake.arrivals, arrival.due ≤ now ∧ arrival.chunk.IsInput
  /-- The input ends behind all that arrives. -/
  last : intake.reader.ended = true → intake.arrivals = []

/-- A bound on the number of answers until nothing but the end of the stream is given. A byte weighs
more than what its reception can call forth. -/
def potential (intake : Intake) : Nat :=
  4 * Line.arrivalBytes intake.arrivals + 2 * intake.arrivals.length
    + intake.reader.buffer.length + (if intake.reader.ended then 0 else 3)
    + (if intake.reader.errored then 1 else if intake.reader.readable then 2 else 0)

end Intake

/-- What is between two states of an intake, given these answers. -/
structure Passing (now : Nat) (before : Intake) (answers : List Poll) (after : Intake) : Prop where
  sound : after.Sound now
  mode : after.reader.codec.resync = before.reader.codec.resync
  scan : Frame.scan before.ahead = Poll.frames answers ++ Frame.scan after.ahead
  oneShot : before.reader.codec.resync = false → Frame.oneShot before.ahead =
    { Frame.oneShot after.ahead with
      frames := Poll.frames answers ++ (Frame.oneShot after.ahead).frames }
  counted : before.reader.codec.discarded + before.ahead.length = after.reader.codec.discarded
    + ((Poll.frames answers).map Frame.encodedLength).sum + after.ahead.length
  outages : before.outages = Poll.outages answers ++ after.outages
  /-- The codec refuses what no frame can be read from in one shot either. -/
  refusals : ∀ cause ∈ Poll.refusals answers, before.reader.codec.resync = false ∧
    (Frame.oneShot before.ahead).refusal? = some cause
  /-- Behind the last word of the codec nothing is said. -/
  reported : before.Reported → after.Reported ∧ ∀ answer ∈ answers, answer = .ended
  /-- Only the last word can be that the input is truncated. -/
  unreported : ¬ after.Reported → .truncated ∉ Poll.refusals answers
  /-- The last word is what one shot calls for. -/
  concluding : before.reader.codec.resync = false → ¬ before.Reported → after.Reported →
    Poll.Conclude (Frame.oneShot before.ahead).refusal? answers
  potential : after.potential + answers.length ≤ before.potential

namespace Passing

variable {now : Nat} {before middle after : Intake} {answers others : List Poll}

/-- Nothing happens. -/
theorem refl (sound : before.Sound now) : Passing now before [] before where
  sound := sound
  mode := rfl
  scan := rfl
  oneShot := by simp
  counted := by simp
  outages := rfl
  refusals := by simp
  reported := by simp
  unreported := by simp
  concluding := by
    intro strict unreported reported
    exact absurd reported unreported
  potential := Nat.le_refl _

/-- What one shot at the bytes ahead cannot read does not change. -/
theorem refusal?_eq (passing : Passing now before answers after)
    (strict : before.reader.codec.resync = false) :
    (Frame.oneShot before.ahead).refusal? = (Frame.oneShot after.ahead).refusal? := by
  rw [passing.oneShot strict]
  rfl

/-- One passing goes on where another one ends. -/
theorem trans (first : Passing now before answers middle)
    (second : Passing now middle others after) : Passing now before (answers ++ others) after where
  sound := second.sound
  mode := second.mode.trans first.mode
  scan := by rw [first.scan, second.scan, Poll.frames_append, List.append_assoc]
  oneShot := by
    intro strict
    rw [first.oneShot strict, second.oneShot (first.mode.trans strict), Poll.frames_append,
      List.append_assoc]
  counted := by
    have counted := first.counted
    have countedThen := second.counted
    rw [Poll.frames_append, List.map_append, List.sum_append]
    omega
  outages := by rw [first.outages, second.outages, Poll.outages_append, List.append_assoc]
  refusals := by
    intro cause among
    rw [Poll.refusals_append, List.mem_append] at among
    obtain early | late := among
    · exact first.refusals cause early
    · obtain ⟨strict, refused⟩ := second.refusals cause late
      rw [first.mode] at strict
      exact ⟨strict, (first.refusal?_eq strict).trans refused⟩
  reported := by
    intro reported
    obtain ⟨reportedThen, ends⟩ := first.reported reported
    obtain ⟨reportedAfter, endsThen⟩ := second.reported reportedThen
    refine ⟨reportedAfter, ?_⟩
    intro answer among
    rw [List.mem_append] at among
    exact among.elim (ends answer) (endsThen answer)
  unreported := by
    intro unreported among
    rw [Poll.refusals_append, List.mem_append] at among
    obtain early | late := among
    · exact first.unreported (fun reported => unreported (second.reported reported).1) early
    · exact second.unreported unreported late
  concluding := by
    intro strict unreported reported
    -- the last word is said in one of the two, and only the end of the stream comes behind it
    by_cases reportedThen : middle.Reported
    · obtain ⟨earlier, last, ends, split, noneTruncated, refused, ending⟩ :=
        first.concluding strict unreported reportedThen
      refine ⟨earlier, last, ends ++ others, by rw [split]; simp, noneTruncated, refused, ?_⟩
      intro answer among
      rw [List.mem_append] at among
      exact among.elim (ending answer) ((second.reported reportedThen).2 answer)
    · obtain ⟨earlier, last, ends, split, noneTruncated, refused, ending⟩ :=
        second.concluding (first.mode.trans strict) reportedThen reported
      refine ⟨answers ++ earlier, last, ends, by rw [split, List.append_assoc], ?_, ?_, ending⟩
      · rw [Poll.refusals_append, List.mem_append]
        exact fun among => among.elim (first.unreported reportedThen) noneTruncated
      · rw [refused, first.refusal?_eq strict]
  potential := by
    have decreasing := first.potential
    have decreasingThen := second.potential
    rw [List.length_append]
    omega

/-- A step that leaves the codec and the bytes ahead as they are. -/
theorem of_still (sound : after.Sound now) (codec : after.reader.codec = before.reader.codec)
    (ahead : after.ahead = before.ahead) (frameless : Poll.frames answers = [])
    (unrefused : Poll.refusals answers = [])
    (outages : before.outages = Poll.outages answers ++ after.outages)
    (unreported : after.Reported → before.Reported)
    (reported : before.Reported → after.Reported ∧ ∀ answer ∈ answers, answer = .ended)
    (potential : after.potential + answers.length ≤ before.potential) :
    Passing now before answers after where
  sound := sound
  mode := by rw [codec]
  scan := by rw [frameless, ahead, List.nil_append]
  oneShot := by
    intro strict
    rw [frameless, ahead, List.nil_append]
  counted := by
    rw [frameless, ahead, codec]
    simp
  outages := outages
  refusals := by simp [unrefused]
  reported := reported
  unreported := by simp [unrefused]
  concluding := by
    intro strict before after
    exact absurd (unreported after) before
  potential := potential

end Passing

end MeterBus
