import MeterBus.Proofs.Stream.Account

/-!
# Polling a strict line for all its frames

Polls of a strict line give frames of what is ahead, in order. Once all that is on its way can be read,
they go on to do so until no frame is left: a poll may give an end or a failure instead, but each of
these takes something off `Intake.outlay`. So enough polls give all that one shot finds.
-/

namespace MeterBus

/-- A bound on the answers without a frame that a reader has for what it has read. -/
def FrameReader.unrest (reader : FrameReader) : Nat :=
  if reader.errored then 1 else if reader.readable then 2 else 0

/-- A bound on the polls of a line as long as a frame is ahead of it. A byte weighs more than what its
reception can call forth, and an arrival without bytes does so as well. -/
def Intake.outlay (intake : Intake) : Nat :=
  4 * Line.arrivalBytes intake.arrivals + 3 * intake.arrivals.length + intake.reader.buffer.length
    + intake.reader.unrest

namespace FrameReader

variable {reader after : FrameReader}

/-- What is given without a read takes something off the buffer or the unrest. -/
theorem settle_lt {given : Poll} (settled : reader.settle.1 = some given) :
    reader.settle.2.1.buffer.length + reader.settle.2.1.unrest
      < reader.buffer.length + reader.unrest := by
  have shorter := reader.length_attempt_le
  have shorterStill := @length_attempt_lt reader
  unfold settle at settled ⊢
  split at settled
  · next errored => simp [errored, unrest]
  · next unerrored =>
    split at settled
    · next readable =>
      dsimp only at settled
      split at settled
      · next frame result =>
        have less := shorterStill result
        simp [unerrored, readable, result, unrest]
        omega
      · next cause result =>
        simp [unerrored, readable, result, unrest]
        omega
      · next result =>
        simp [unerrored, readable, result, unrest]
        omega
    · cases settled

/-- Where nothing is given without a read, there is no more in the buffer, and no unrest. -/
theorem settle_le (idle : reader.settle.1 = none) :
    reader.settle.2.1.buffer.length + reader.settle.2.1.unrest
      ≤ reader.buffer.length + reader.unrest ∧ reader.settle.2.1.unrest = 0 := by
  have shorter := reader.length_attempt_le
  unfold settle at idle ⊢
  split at idle
  · cases idle
  · next unerrored =>
    split at idle
    · next readable =>
      dsimp only at idle
      split at idle
      · cases idle
      · cases idle
      · next result =>
        simp [unerrored, readable, result, unrest]
        omega
    · next unreadable => simp [unerrored, unreadable, unrest]

/-- Two answers without a frame are the most that a reader has. -/
theorem unrest_le (reader : FrameReader) : reader.unrest ≤ 2 := by
  unfold unrest
  split
  · exact Nat.le_succ 1
  · split
    · exact Nat.le_refl 2
    · exact Nat.zero_le 2

end FrameReader

/-- What is given without a read takes something off the outlay. -/
theorem Intake.outlay_settle_lt {reader settled : FrameReader} {given : Poll}
    {events : List Codec.Event} (settledEq : reader.settle = (some given, settled, events))
    (arrivals : List Arrival) :
    Intake.outlay ⟨settled, arrivals⟩ < Intake.outlay ⟨reader, arrivals⟩ := by
  have less := @FrameReader.settle_lt reader given
  rw [settledEq] at less
  have less := less rfl
  simp only [outlay] at less ⊢
  omega

/-- Where nothing is given without a read, the outlay does not grow, and there is no unrest. -/
theorem Intake.outlay_settle_le {reader settled : FrameReader} {events : List Codec.Event}
    (settledEq : reader.settle = (none, settled, events)) (arrivals : List Arrival) :
    Intake.outlay ⟨settled, arrivals⟩ ≤ Intake.outlay ⟨reader, arrivals⟩ ∧ settled.unrest = 0 := by
  have less := @FrameReader.settle_le reader
  rw [settledEq] at less
  obtain ⟨less, idle⟩ := less rfl
  refine ⟨?_, idle⟩
  simp only [outlay] at less ⊢
  omega

/-- A read of an arrival takes something off the outlay. -/
theorem Intake.outlay_absorb_lt {reader : FrameReader} (idle : reader.unrest = 0)
    (arrival : Arrival) (later : List Arrival) :
    let cut := arrival.cut reader.makeRoom.storage.free
    Intake.outlay ⟨(reader.makeRoom.absorb cut.1).2, cut.2 ++ later⟩
      < Intake.outlay ⟨reader, arrival :: later⟩ := by
  intro cut
  have room : 0 < reader.makeRoom.storage.free := Storage.free_makeRoom_pos ..
  have size : cut.1.size + Line.arrivalBytes cut.2 = arrival.chunk.size := Line.size_cut _ arrival
  have fewer : Line.arrivalBytes (cut.2 ++ later) + (cut.2 ++ later).length
      < Line.arrivalBytes (arrival :: later) + (arrival :: later).length :=
    Line.cut_lt room arrival later
  have filled := reader.makeRoom.length_absorb_le cut.1
  have restless := (reader.makeRoom.absorb cut.1).2.unrest_le
  simp only [Line.arrivalBytes, Line.arrivalBytes_append, List.length_append, List.length_cons,
    FrameReader.makeRoom] at fewer filled
  simp only [outlay, Line.arrivalBytes, Line.arrivalBytes_append, List.length_append,
    List.length_cons, idle]
  have single : cut.2.length ≤ 1 := arrival.length_cut_le _
  simp only [FrameReader.makeRoom] at restless ⊢
  omega

namespace Line

variable {now : Nat} {line after : Line} {frame : Frame}

/-- A reader that gives nothing without a read has no frame in its buffer. -/
theorem not_heads_of_settle {reader settled : FrameReader} {events : List Codec.Event}
    (strict : reader.Strict) (settledEq : reader.settle = (none, settled, events)) :
    ¬ frame.Heads (Intake.ahead ⟨reader, []⟩) := by
  rintro ⟨consumed, accepted⟩
  have settles := strict.settles
  rw [settledEq] at settles
  obtain ⟨unreadable, _⟩ := settles.idle rfl
  obtain ⟨reason, failed⟩ := settles.strict.resting (.inl unreadable)
  have same : Intake.ahead ⟨reader, []⟩ = settled.buffer := by
    rw [Intake.ahead, settles.buffer]
    simp
  rw [same, failed] at accepted
  cases accepted

/-- As long as a frame is ahead and all can be read, a poll takes something off the outlay. -/
theorem pollReader_outlay (now : Nat) (closed : Bool) (reader : FrameReader)
    (arrivals : List Arrival) (strict : reader.Strict)
    (heads : frame.Heads (Intake.ahead ⟨reader, arrivals⟩))
    (arrived : Intake.coming now ⟨reader, arrivals⟩ = []) :
    Intake.outlay ⟨(pollReader now closed reader arrivals).reader,
        (pollReader now closed reader arrivals).arrivals⟩
      < Intake.outlay ⟨reader, arrivals⟩ := by
  fun_induction pollReader now closed reader arrivals with
  | case1 reader arrivals poll settled events settledEq =>
    exact Intake.outlay_settle_lt settledEq arrivals
  | case2 reader settled events settledEq closed poll after absorbedEq =>
    exact absurd heads (not_heads_of_settle strict settledEq)
  | case3 reader settled events settledEq closed after absorbedEq last =>
    exact absurd heads (not_heads_of_settle strict settledEq)
  | case4 reader settled events settledEq opened =>
    exact absurd heads (not_heads_of_settle strict settledEq)
  | case5 reader settled events settledEq arrival later due space poll after absorbedEq =>
    obtain ⟨settling, idle⟩ := Intake.outlay_settle_le settledEq (arrival :: later)
    have reading := Intake.outlay_absorb_lt idle arrival later
    change Intake.outlay ⟨(settled.makeRoom.absorb (arrival.cut space).1).2,
      (arrival.cut space).2 ++ later⟩ < _ at reading
    rw [absorbedEq] at reading
    exact reading.trans_le settling
  | case6 reader settled events settledEq arrival later due space after absorbedEq polled
      inductionHypothesis =>
    obtain ⟨same, strictThen, unreadable, unerrored⟩ :=
      Intake.SameBytes.of_settle now strict (arrival :: later) settledEq
    have absorbed := strictThen.absorb unreadable unerrored (arrival.cut space).1
    have reading : Intake.SameBytes now ⟨settled, arrival :: later⟩ _ := .of_absorb due space later
    obtain ⟨settling, idle⟩ := Intake.outlay_settle_le settledEq (arrival :: later)
    have lighter := Intake.outlay_absorb_lt idle arrival later
    change Intake.outlay ⟨(settled.makeRoom.absorb (arrival.cut space).1).2,
      (arrival.cut space).2 ++ later⟩ < _ at lighter
    rw [absorbedEq] at absorbed reading lighter
    have whole := same.trans reading
    rw [← whole.ahead] at heads
    rw [← whole.coming] at arrived
    exact ((inductionHypothesis absorbed heads arrived).trans lighter).trans_le settling
  | case7 reader settled events settledEq arrival later early =>
    have notDue : ¬ arrival.isDue now = true := by
      rw [Arrival.isDue, decide_eq_true_eq]
      exact early
    rw [Intake.coming, List.dropWhile_cons_of_neg notDue] at arrived
    cases arrived

/-- Polls of a strict line take frames off what is ahead, and leave it strict. -/
theorem polls_takes (now count : Nat) (strict : line.reader.Strict) :
    (line.polls now count).2.reader.Strict ∧
      Frame.Opens line.intake.ahead (Poll.frames (line.polls now count).1)
        (line.polls now count).2.intake.ahead := by
  induction count generalizing line with
  | zero => exact ⟨strict, .none⟩
  | succ count inductionHypothesis =>
    have first := poll_takes now strict
    obtain ⟨strictThen, others⟩ := inductionHypothesis first.strict
    refine ⟨strictThen, ?_⟩
    rw [polls, Poll.frames_cons]
    exact first.opens.trans others

/-- Enough polls leave no frame ahead, once all that is on its way can be read. -/
theorem exists_polls_exhaust (strict : line.reader.Strict) (arrived : line.intake.coming now = []) :
    ∃ enough, ∀ more,
      (Frame.oneShot (line.polls now (enough + more)).2.intake.ahead).frames = [] := by
  -- as long as a frame is ahead, the next poll takes something off the outlay
  induction bound : line.intake.outlay using Nat.strongRecOn generalizing line with
  | ind outlay inductionHypothesis =>
    cases read : Frame.read line.intake.ahead with
    | error stop =>
      refine ⟨0, fun more => ?_⟩
      have opens := (polls_takes now (0 + more) strict).2.oneShot
      rw [Frame.oneShot_of_error read] at opens
      exact (List.append_eq_nil_iff.1 (congrArg Frame.Shot.frames opens).symm).2
    | ok accepted =>
      obtain ⟨consumed, frame⟩ := accepted
      have heads : frame.Heads line.intake.ahead := ⟨consumed, read⟩
      have less : (line.poll now).2.1.intake.outlay < outlay := by
        rw [← bound]
        exact pollReader_outlay now line.closed line.reader line.arrivals strict heads arrived
      have yield := poll_yields now strict
      obtain ⟨enough, exhausted⟩ :=
        inductionHypothesis _ less yield.strict (yield.coming.trans arrived) rfl
      refine ⟨enough + 1, fun more => ?_⟩
      rw [Nat.add_right_comm]
      exact exhausted more

/-- Enough polls give all that one shot finds ahead, once all that is on its way can be read. -/
theorem exists_polls_give (strict : line.reader.Strict) (arrived : line.intake.coming now = []) :
    ∃ enough, ∀ more,
      Poll.frames (line.polls now (enough + more)).1 = (Frame.oneShot line.intake.ahead).frames := by
  obtain ⟨enough, exhausted⟩ := exists_polls_exhaust strict arrived
  refine ⟨enough, fun more => ?_⟩
  rw [(polls_takes now (enough + more) strict).2.oneShot]
  simp only [exhausted more, List.append_nil]

end Line

end MeterBus
