import Mathlib.Data.List.TakeWhile
import MeterBus.Proofs.Frame.RoundTrip
import MeterBus.Proofs.Stream.Drain

/-!
# What a strict line gives

A strict reader drops nothing, so that the bytes of a line are those of the frames that it gives, one
behind the other, and those that are ahead. At any time these are in two parts: what has been
delivered, which is in the buffer or can be read at once, and what is still to come. `Yield` says
what a poll takes off the first part: the frame at its front, or nothing because no frame stands
there.
-/

namespace MeterBus

/-- Whether a frame is read off the front of a byte string. -/
def Frame.Heads (frame : Frame) (bytes : List UInt8) : Prop :=
  ∃ consumed, Frame.read bytes = .ok (consumed, frame)

/-- A frame at the front of a byte string is so whatever comes behind it. -/
theorem Frame.Heads.append {frame : Frame} {bytes : List UInt8} (heads : frame.Heads bytes)
    (suffix : List UInt8) : frame.Heads (bytes ++ suffix) := by
  obtain ⟨consumed, accepted⟩ := heads
  exact ⟨consumed, Frame.read_append_of_ok accepted suffix⟩

/-- A frame that was read off some bytes is read off every byte string that starts with its own. -/
theorem Frame.Heads.layout_append {frame : Frame} {bytes : List UInt8} (heads : frame.Heads bytes)
    (suffix : List UInt8) : frame.Heads (frame.layout ++ suffix) := by
  obtain ⟨consumed, accepted⟩ := heads
  obtain ⟨rest, read, _⟩ := Frame.read_eq_ok_iff_rest.1 accepted
  obtain ⟨canonical, valid, _⟩ := ByteReader.frame_eq_ok_iff.1 read
  have again := Frame.read_layout_append valid suffix
  rw [canonical.canonical_eq] at again
  exact ⟨_, again⟩

/-- One shot at a byte string finds the frame at its front first. -/
theorem Frame.Heads.oneShot {frame : Frame} {rest : List UInt8}
    (heads : frame.Heads (frame.layout ++ rest)) :
    Frame.oneShot (frame.layout ++ rest)
      = { Frame.oneShot rest with frames := frame :: (Frame.oneShot rest).frames } := by
  obtain ⟨consumed, accepted⟩ := heads
  have length : consumed = frame.layout.length := by
    rw [Frame.consumed_eq_of_read accepted, Frame.length_layout]
  rw [Frame.oneShot_of_ok accepted, length, List.drop_left]

/-- The bytes of the frame that a poll gives. -/
def Poll.layout : Poll → List UInt8
  | .frame given => given.layout
  | .pending | .ended | .failure _ => []

/-! ## Readers -/

/-- Whether a reader drops nothing, is right about its buffer, and has no frame in it when it waits
for more bytes. -/
structure FrameReader.Strict (reader : FrameReader) : Prop where
  strict : reader.codec.resync = false
  remembers : reader.codec.Remembers reader.buffer
  resting : reader.readable = false ∨ reader.errored = true →
    ∃ reason, Frame.read reader.buffer = .error reason

namespace FrameReader

variable {reader : FrameReader}

/-- A fresh strict reader. -/
theorem strict_fresh : (fresh .strict).Strict where
  strict := rfl
  remembers := Codec.remembers_of_required_eq_zero rfl _
  resting := fun _ => ⟨_, Frame.read_nil⟩

/-- What settling a strict reader takes off its buffer. -/
structure Settles (reader : FrameReader) (given : Option Poll) (after : FrameReader) : Prop where
  strict : after.Strict
  buffer : reader.buffer = (given.elim [] Poll.layout) ++ after.buffer
  front : ∀ frame, given = some (.frame frame) → frame.Heads reader.buffer
  known : given ≠ some .pending
  idle : given = none → after.readable = false ∧ after.errored = false

/-- A strict reader settles on the frame at the front of its buffer, or on nothing. -/
theorem Strict.settles (strict : reader.Strict) :
    reader.Settles reader.settle.1 reader.settle.2.1 := by
  obtain ⟨dropless, remembers, resting⟩ := strict
  unfold settle
  split
  · next errored =>
    constructor
    · exact ⟨dropless, remembers, fun _ => resting (.inr errored)⟩
    · simp [Poll.layout]
    · simp
    · simp
    · simp
  · next unerrored =>
    split
    · next readable =>
      obtain ⟨dropped, rest, found⟩ := reader.attempt_finds remembers
      obtain ⟨rfl, rfl, _⟩ := found.of_strict dropless
      obtain ⟨_, _, gives, mode, _, remembersThen⟩ := found
      rw [dropless] at gives mode
      dsimp only
      split
      · next frame given =>
        rw [given] at gives
        obtain ⟨consumed, accepted, left⟩ := gives.of_frame
        constructor
        · refine ⟨mode, remembersThen, ?_⟩
          simp [readable, unerrored]
        · change reader.buffer = frame.layout ++ reader.attempt.buffer
          rw [left]
          exact Frame.eq_layout_append_of_read accepted
        · rintro other same
          cases same
          exact ⟨consumed, accepted⟩
        · simp
        · simp
      · next cause given =>
        rw [given] at gives
        have left := gives.of_error.1
        constructor
        · exact ⟨mode, remembersThen, fun _ => gives.failed (by simp)⟩
        · exact left.symm
        · simp
        · simp
        · simp
      · next given =>
        rw [given] at gives
        have left := gives.of_none.1
        constructor
        · exact ⟨mode, remembersThen, fun _ => gives.failed (by simp)⟩
        · cases reader.ended <;> exact left.symm
        · cases reader.ended <;> simp
        · cases reader.ended <;> simp
        · cases reader.ended <;> simp [unerrored]
    · next unreadable =>
      constructor
      · exact ⟨dropless, remembers, resting⟩
      · rfl
      · simp
      · simp
      · exact fun _ => ⟨by simpa using unreadable, by simpa using unerrored⟩

/-- A read puts its bytes behind the buffer. -/
theorem buffer_absorb (reader : FrameReader) (chunk : Chunk) :
    (reader.absorb chunk).2.buffer = reader.buffer ++ chunk.content := by
  unfold absorb
  split
  · exact (List.append_nil _).symm
  · rfl
  · exact (List.append_nil _).symm
  · split <;> exact (List.append_nil _).symm

/-- A read does not end a poll with nothing. -/
theorem absorb_ne_pending (reader : FrameReader) (chunk : Chunk) :
    (reader.absorb chunk).1 ≠ some .pending := by
  unfold absorb
  split
  · simp
  · simp
  · simp
  · split <;> simp

/-- A strict reader that gives nothing reads on. -/
theorem Strict.absorb (strict : reader.Strict) (unreadable : reader.readable = false)
    (unerrored : reader.errored = false) (chunk : Chunk) :
    (reader.makeRoom.absorb chunk).2.Strict := by
  obtain ⟨dropless, remembers, resting⟩ := strict
  have failed := resting (.inl unreadable)
  unfold FrameReader.absorb
  split
  · exact ⟨dropless, remembers, resting⟩
  · refine ⟨dropless, remembers.append _, ?_⟩
    simp [makeRoom, unerrored]
  · exact ⟨dropless, remembers, fun _ => failed⟩
  · split
    · exact ⟨dropless, remembers, resting⟩
    · refine ⟨dropless, remembers, ?_⟩
      simp [makeRoom, unerrored]

end FrameReader

/-! ## Polls -/

/-- Whether an arrival can be read at a time, if nothing holds it back. -/
def Arrival.isDue (now : Nat) (arrival : Arrival) : Bool :=
  arrival.due ≤ now

namespace Intake

/-- The bytes that have been delivered: received and not given on, or readable at this time. -/
def delivered (now : Nat) (intake : Intake) : List UInt8 :=
  intake.reader.buffer ++ (intake.arrivals.takeWhile (·.isDue now)).flatMap (·.chunk.content)

/-- What cannot be read yet: an arrival that is not due, and all that it holds back. -/
def coming (now : Nat) (intake : Intake) : List Arrival :=
  intake.arrivals.dropWhile (·.isDue now)

/-- What is ahead has been delivered, or is still to come. -/
theorem delivered_append_coming (now : Nat) (intake : Intake) :
    intake.delivered now ++ (intake.coming now).flatMap (·.chunk.content) = intake.ahead := by
  rw [delivered, coming, List.append_assoc, ← List.flatMap_append, List.takeWhile_append_dropWhile]
  rfl

/-- Where all that can be read has been read, what has been delivered is in the buffer. -/
theorem delivered_of_read {now : Nat} {before after : Intake}
    (read : after.arrivals = before.coming now) : after.delivered now = after.reader.buffer := by
  have none : (before.coming now).takeWhile (·.isDue now) = [] := by
    rw [coming, List.takeWhile_eq_nil_iff]
    intro some
    exact List.dropWhile_get_zero_not _ _ some
  rw [delivered, read, none, List.flatMap_nil, List.append_nil]

/-- Whether the same bytes have been delivered, and the same are still to come. -/
structure SameBytes (now : Nat) (before after : Intake) : Prop where
  delivered : after.delivered now = before.delivered now
  coming : after.coming now = before.coming now

theorem SameBytes.trans {now : Nat} {before middle after : Intake}
    (first : SameBytes now before middle) (second : SameBytes now middle after) :
    SameBytes now before after :=
  ⟨second.delivered.trans first.delivered, second.coming.trans first.coming⟩

/-- What has been delivered and what is to come are the same, and so is what is ahead. -/
theorem SameBytes.ahead {now : Nat} {before after : Intake} (same : SameBytes now before after) :
    after.ahead = before.ahead := by
  rw [← delivered_append_coming now, ← delivered_append_coming now, same.delivered, same.coming]

/-- A reader with the same buffer has the same bytes. -/
theorem SameBytes.of_buffer {now : Nat} {reader after : FrameReader} {arrivals : List Arrival}
    (buffer : after.buffer = reader.buffer) : SameBytes now ⟨reader, arrivals⟩ ⟨after, arrivals⟩ := by
  constructor
  · rw [Intake.delivered, Intake.delivered, buffer]
  · rfl

end Intake

/-- What a read leaves of an arrival was due when that was. -/
theorem Arrival.due_cut (space : Nat) (arrival : Arrival) :
    ∀ left ∈ (arrival.cut space).2, left.due = arrival.due := by
  unfold cut
  split
  · split <;> simp
  · simp

/-- A read of what is due takes from what has been delivered, and puts it in the buffer. -/
theorem Intake.SameBytes.of_absorb {now : Nat} {reader : FrameReader} {arrival : Arrival}
    (due : arrival.due ≤ now) (space : Nat) (later : List Arrival) :
    SameBytes now ⟨reader, arrival :: later⟩
      ⟨(reader.makeRoom.absorb (arrival.cut space).1).2, (arrival.cut space).2 ++ later⟩ := by
  have dueHere : arrival.isDue now = true := decide_eq_true due
  have dueLeft : ∀ left ∈ (arrival.cut space).2, left.isDue now = true := by
    intro left among
    rw [Arrival.isDue, arrival.due_cut space left among]
    exact dueHere
  constructor
  · rw [Intake.delivered, Intake.delivered, FrameReader.buffer_absorb, List.takeWhile_append_of_pos dueLeft,
      List.takeWhile_cons_of_pos dueHere, List.flatMap_append, List.flatMap_cons,
      ← arrival.content_cut space]
    simp [FrameReader.makeRoom]
  · rw [Intake.coming, Intake.coming, List.dropWhile_append_of_pos dueLeft, List.dropWhile_cons_of_pos dueHere]

/-- A strict reader that gives nothing without a read is ready for one, with the same bytes. -/
theorem Intake.SameBytes.of_settle (now : Nat) {reader settled : FrameReader}
    {events : List Codec.Event} (strict : reader.Strict) (arrivals : List Arrival)
    (settledEq : reader.settle = (none, settled, events)) :
    SameBytes now ⟨reader, arrivals⟩ ⟨settled, arrivals⟩ ∧ settled.Strict ∧
      settled.readable = false ∧ settled.errored = false := by
  have settles := strict.settles
  rw [settledEq] at settles
  obtain ⟨unreadable, unerrored⟩ := settles.idle rfl
  exact ⟨.of_buffer settles.buffer.symm, settles.strict, unreadable, unerrored⟩

/-- What a poll takes off what has been delivered to a strict reader. -/
structure Yield (now : Nat) (before : Intake) (given : Poll) (after : Intake) : Prop where
  strict : after.reader.Strict
  delivered : before.delivered now = given.layout ++ after.delivered now
  coming : after.coming now = before.coming now
  front : ∀ frame, given = .frame frame → frame.Heads (before.delivered now)
  /-- A poll that gives nothing has read all that can be read. -/
  cleared : given = .pending →
    after.arrivals = before.coming now ∧ ∃ reason, Frame.read after.reader.buffer = .error reason

namespace Yield

variable {now : Nat} {before middle after : Intake} {given : Poll}

/-- What a poll yields behind a change that leaves the bytes the same. -/
theorem behind (same : Intake.SameBytes now before middle) (yield : Yield now middle given after) :
    Yield now before given after where
  strict := yield.strict
  delivered := same.delivered ▸ yield.delivered
  coming := yield.coming.trans same.coming
  front := same.delivered ▸ yield.front
  cleared := same.coming ▸ yield.cleared

/-- A poll that gives an end or a failure. -/
theorem of_silent (strict : after.reader.Strict) (same : Intake.SameBytes now before after)
    (frameless : ∀ frame, given ≠ .frame frame) (known : given ≠ .pending) :
    Yield now before given after where
  strict := strict
  delivered := by
    rw [same.delivered]
    cases given with
    | frame frame => exact absurd rfl (frameless frame)
    | _ => rfl
  coming := same.coming
  front := fun frame same => absurd same (frameless frame)
  cleared := fun same => absurd same known

/-- What is given without a read. -/
theorem of_settles {reader settled : FrameReader} (settles : reader.Settles (some given) settled)
    (arrivals : List Arrival) : Yield now ⟨reader, arrivals⟩ given ⟨settled, arrivals⟩ where
  strict := settles.strict
  delivered := by
    rw [Intake.delivered, Intake.delivered, settles.buffer, List.append_assoc]
    rfl
  coming := rfl
  front := by
    rintro frame rfl
    exact (settles.front frame rfl).append _
  cleared := by
    rintro rfl
    exact absurd rfl settles.known

/-- Nothing is given where nothing more can be read. -/
theorem of_waiting {reader : FrameReader} {arrivals : List Arrival} (strict : reader.Strict)
    (unreadable : reader.readable = false)
    (waiting : Intake.coming now ⟨reader, arrivals⟩ = arrivals) :
    Yield now ⟨reader, arrivals⟩ .pending ⟨reader, arrivals⟩ where
  strict := strict
  delivered := rfl
  coming := rfl
  front := by simp
  cleared := fun _ => ⟨waiting.symm, strict.resting (.inl unreadable)⟩

end Yield

/-- A poll of a strict reader yields the frame at the front of what has been delivered, or nothing
when no frame stands there. -/
theorem Line.pollReader_yields (now : Nat) (closed : Bool) (reader : FrameReader)
    (arrivals : List Arrival) (strict : reader.Strict) :
    Yield now ⟨reader, arrivals⟩ (pollReader now closed reader arrivals).poll
      ⟨(pollReader now closed reader arrivals).reader,
        (pollReader now closed reader arrivals).arrivals⟩ := by
  fun_induction pollReader now closed reader arrivals with
  | case1 reader arrivals poll settled events settledEq =>
    have settles := strict.settles
    rw [settledEq] at settles
    exact .of_settles settles arrivals
  | case2 reader settled events settledEq closed poll after absorbedEq =>
    obtain ⟨same, strictThen, unreadable, unerrored⟩ :=
      Intake.SameBytes.of_settle now strict [] settledEq
    have absorbed := strictThen.absorb unreadable unerrored .ended
    have noFrame := settled.makeRoom.absorb_ne_frame .ended
    have known := settled.makeRoom.absorb_ne_pending .ended
    have buffer := settled.makeRoom.buffer_absorb .ended
    rw [absorbedEq] at absorbed noFrame known buffer
    have reading : after.buffer = settled.buffer := buffer.trans (List.append_nil _)
    apply Yield.of_silent absorbed (same.trans (.of_buffer reading))
    · rintro frame rfl
      exact noFrame frame rfl
    · rintro rfl
      exact known rfl
  | case3 reader settled events settledEq closed after absorbedEq last =>
    obtain ⟨same, strictThen, unreadable, unerrored⟩ :=
      Intake.SameBytes.of_settle now strict [] settledEq
    have absorbed := strictThen.absorb unreadable unerrored .ended
    have buffer := settled.makeRoom.buffer_absorb .ended
    rw [absorbedEq] at absorbed buffer
    have reading : after.buffer = settled.buffer := buffer.trans (List.append_nil _)
    apply Yield.behind (same.trans (.of_buffer reading))
    have settles := absorbed.settles
    cases given : after.settle.1 with
    | none =>
      rw [given] at settles
      have ended : Yield now ⟨after, []⟩ .ended ⟨after.settle.2.1, []⟩ :=
        .of_silent settles.strict (.of_buffer settles.buffer.symm) (by simp) (by simp)
      simpa [last, given] using ended
    | some poll =>
      rw [given] at settles
      simpa [last, given] using Yield.of_settles settles []
  | case4 reader settled events settledEq opened =>
    obtain ⟨same, strictThen, unreadable, _⟩ :=
      Intake.SameBytes.of_settle now strict [] settledEq
    exact .behind same (.of_waiting strictThen unreadable rfl)
  | case5 reader settled events settledEq arrival later due space poll after absorbedEq =>
    obtain ⟨same, strictThen, unreadable, unerrored⟩ :=
      Intake.SameBytes.of_settle now strict (arrival :: later) settledEq
    have absorbed := strictThen.absorb unreadable unerrored (arrival.cut space).1
    have noFrame := settled.makeRoom.absorb_ne_frame (arrival.cut space).1
    have known := settled.makeRoom.absorb_ne_pending (arrival.cut space).1
    have reading : Intake.SameBytes now ⟨settled, arrival :: later⟩ _ := .of_absorb due space later
    rw [absorbedEq] at absorbed noFrame known reading
    apply Yield.of_silent absorbed (same.trans reading)
    · rintro frame rfl
      exact noFrame frame rfl
    · rintro rfl
      exact known rfl
  | case6 reader settled events settledEq arrival later due space after absorbedEq polled
      inductionHypothesis =>
    obtain ⟨same, strictThen, unreadable, unerrored⟩ :=
      Intake.SameBytes.of_settle now strict (arrival :: later) settledEq
    have absorbed := strictThen.absorb unreadable unerrored (arrival.cut space).1
    have reading : Intake.SameBytes now ⟨settled, arrival :: later⟩ _ := .of_absorb due space later
    rw [absorbedEq] at absorbed reading
    exact .behind (same.trans reading) (inductionHypothesis absorbed)
  | case7 reader settled events settledEq arrival later early =>
    obtain ⟨same, strictThen, unreadable, _⟩ :=
      Intake.SameBytes.of_settle now strict (arrival :: later) settledEq
    apply Yield.behind same
    apply Yield.of_waiting strictThen unreadable
    have notDue : ¬ arrival.isDue now = true := by
      rw [Arrival.isDue, decide_eq_true_eq]
      exact early
    exact List.dropWhile_cons_of_neg notDue

end MeterBus
