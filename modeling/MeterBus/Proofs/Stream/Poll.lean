import MeterBus.Proofs.Stream.Look

/-!
# One poll

A poll goes on from what can be given without a read to the reads that it takes, and to the end of
the input. `Line.pollReader_passing` puts the passings together: a poll of a line that is closed
behind what has arrived uses up some of what bounds the number of answers.
-/

namespace MeterBus

variable {now : Nat} {reader : FrameReader} {arrivals later : List Arrival} {arrival : Arrival}

namespace Arrival

variable (space : Nat) (arrival)

/-- What a read leaves of an arrival comes behind what it takes. -/
theorem content_cut :
    (arrival.cut space).1.content ++ (arrival.cut space).2.flatMap (·.chunk.content)
      = arrival.chunk.content := by
  obtain ⟨due, chunk⟩ := arrival
  cases chunk with
  | failure cause => rfl
  | ended => rfl
  | bytes content =>
    have split := List.take_append_drop space content
    simp only [cut]
    cases rest : content.drop space with
    | nil =>
      rw [rest] at split
      simpa [Chunk.content] using split
    | cons byte others =>
      rw [rest] at split
      simpa [Chunk.content] using split

/-- A failure is met whole. -/
theorem outages_cut :
    (arrival.cut space).1.outage?.toList ++ (arrival.cut space).2.filterMap (·.chunk.outage?)
      = arrival.chunk.outage?.toList := by
  obtain ⟨due, chunk⟩ := arrival
  cases chunk with
  | failure cause => rfl
  | ended => rfl
  | bytes content =>
    simp only [cut]
    cases content.drop space <;> rfl

/-- What a read takes of input is input. -/
theorem isInput_cut (input : arrival.chunk.IsInput) : (arrival.cut space).1.IsInput := by
  obtain ⟨due, chunk⟩ := arrival
  cases input with
  | bytes content => exact .bytes _
  | failure condition message => exact .failure condition message

/-- What a read leaves of input is input as well, and due when that was. -/
theorem arriving_cut (input : arrival.chunk.IsInput) :
    ∀ left ∈ (arrival.cut space).2, left.due = arrival.due ∧ left.chunk.IsInput := by
  obtain ⟨due, chunk⟩ := arrival
  cases input with
  | failure condition message => simp [cut]
  | bytes content =>
    simp only [cut]
    cases content.drop space with
    | nil => simp
    | cons byte others => simpa using Chunk.IsInput.bytes (byte :: others)

/-- A read leaves one arrival at most. -/
theorem length_cut_le : (arrival.cut space).2.length ≤ 1 := by
  obtain ⟨due, chunk⟩ := arrival
  cases chunk with
  | failure cause => exact Nat.zero_le 1
  | ended => exact Nat.zero_le 1
  | bytes content =>
    simp only [cut]
    cases content.drop space with
    | nil => exact Nat.zero_le 1
    | cons byte others => exact Nat.le_refl 1

/-- What one read takes of some arrivals, and the arrivals that it leaves. -/
structure Read (now : Nat) (arrivals : List Arrival) (piece : Chunk) (left : List Arrival) :
    Prop where
  input : piece.IsInput
  arriving : ∀ arrival ∈ left, arrival.due ≤ now ∧ arrival.chunk.IsInput
  content : piece.content ++ left.flatMap (·.chunk.content) = arrivals.flatMap (·.chunk.content)
  outages : arrivals.filterMap (·.chunk.outage?)
    = piece.outage?.toList ++ left.filterMap (·.chunk.outage?)
  bytes : Line.arrivalBytes left + piece.size = Line.arrivalBytes arrivals
  shorter : left.length ≤ arrivals.length
  lighter : Line.arrivalBytes left + left.length < Line.arrivalBytes arrivals + arrivals.length

/-- A read takes what there is space for of the first arrival. -/
theorem read_cut {space : Nat} (room : 0 < space)
    (arriving : ∀ next ∈ arrival :: later, next.due ≤ now ∧ next.chunk.IsInput) :
    Read now (arrival :: later) (arrival.cut space).1 ((arrival.cut space).2 ++ later) := by
  obtain ⟨due, input⟩ := arriving arrival (List.mem_cons_self ..)
  exact {
    input := arrival.isInput_cut space input
    arriving := by
      intro next among
      rw [List.mem_append] at among
      obtain early | late := among
      · obtain ⟨same, inputLeft⟩ := arrival.arriving_cut space input next early
        exact ⟨same ▸ due, inputLeft⟩
      · exact arriving next (List.mem_cons_of_mem _ late)
    content := by
      rw [List.flatMap_append, ← List.append_assoc, arrival.content_cut space, List.flatMap_cons]
    outages := by
      rw [List.filterMap_append, ← List.append_assoc, arrival.outages_cut space,
        List.filterMap_cons]
      cases arrival.chunk.outage? <;> rfl
    bytes := by
      have size := Line.size_cut space arrival
      simp only [Line.arrivalBytes, Line.arrivalBytes_append] at size ⊢
      omega
    shorter := by
      have lengthLeft := arrival.length_cut_le space
      rw [List.length_append, List.length_cons]
      omega
    lighter := Line.cut_lt room arrival later }

end Arrival

/-- Settling reads nothing, so it does not meet the end of the input. -/
theorem FrameReader.ended_settle (reader : FrameReader) :
    reader.settle.2.1.ended = reader.ended := by
  unfold settle
  split
  · rfl
  · split
    · dsimp only
      split <;> rfl
    · rfl

/-- A step before the end of the input that leaves the codec and the bytes ahead as they are. -/
theorem Passing.of_flowing {before after : Intake} {answers : List Poll}
    (flowing : before.reader.ended = false) (flowingAfter : after.reader.ended = false)
    (remembers : after.reader.codec.Remembers after.reader.buffer)
    (resting : after.reader.readable = false ∨ after.reader.errored = true →
      ∃ reason, Frame.read after.reader.buffer = .error reason)
    (arriving : ∀ arrival ∈ after.arrivals, arrival.due ≤ now ∧ arrival.chunk.IsInput)
    (codec : after.reader.codec = before.reader.codec) (ahead : after.ahead = before.ahead)
    (frameless : Poll.frames answers = []) (unrefused : Poll.refusals answers = [])
    (outages : before.outages = Poll.outages answers ++ after.outages)
    (potential : after.potential + answers.length ≤ before.potential) :
    Passing now before answers after := by
  have never {claim : Prop} (ended : before.reader.ended = true) : claim :=
    absurd (flowing.symm.trans ended) Bool.false_ne_true
  have neverAfter {claim : Prop} (ended : after.reader.ended = true) : claim :=
    absurd (flowingAfter.symm.trans ended) Bool.false_ne_true
  have sound : after.Sound now := {
    remembers := remembers
    resting := resting
    emptied := fun _ reported => neverAfter reported.1
    roomy := neverAfter
    arriving := arriving
    last := neverAfter }
  exact .of_still sound codec ahead frameless unrefused outages
    (fun reported => neverAfter reported.1) (fun reported => never reported.1) potential

/-- What bounds the number of answers of an idle reader. -/
theorem Intake.potential_of_idle (idle : reader.Idle) (arrivals : List Arrival) :
    Intake.potential ⟨reader, arrivals⟩
      = 4 * Line.arrivalBytes arrivals + 2 * arrivals.length + reader.buffer.length + 3 := by
  obtain ⟨flowing, unreadable, unerrored⟩ := idle
  simp [Intake.potential, flowing, unreadable, unerrored]

/-- A read takes in what has arrived, and gives it at once if it is a failure. -/
theorem absorb_passing {piece : Chunk} (sound : Intake.Sound now ⟨reader, arrivals⟩)
    (idle : reader.Idle) (read : Arrival.Read now arrivals piece later) :
    Passing now ⟨reader, arrivals⟩ (reader.makeRoom.absorb piece).1.toList
        ⟨(reader.makeRoom.absorb piece).2, later⟩ ∧
      (reader.makeRoom.absorb piece).2.ended = false := by
  have flowing : reader.ended = false := idle.1
  have resting := sound.resting (.inl idle.2.1)
  have before := Intake.potential_of_idle idle arrivals
  obtain ⟨input, arriving, content, outages, bytes, shorter, lighter⟩ := read
  cases input with
  | failure condition message =>
    refine ⟨?_, flowing⟩
    refine .of_flowing flowing flowing sound.remembers (fun _ => resting) arriving rfl
      (congrArg (reader.buffer ++ ·) content) rfl rfl outages ?_
    have size : (Chunk.failure (.transport condition message)).size = 0 := rfl
    have behind :
        Intake.potential
            ⟨(reader.makeRoom.absorb (.failure (.transport condition message))).2, later⟩
          = 4 * Line.arrivalBytes later + 2 * later.length + reader.buffer.length + 4 := by
      simp [Intake.potential, FrameReader.absorb, FrameReader.makeRoom, flowing]
    rw [behind, before]
    simp only [FrameReader.absorb, Option.toList_some, List.length_singleton]
    omega
  | bytes received =>
    cases received with
    | nil =>
      refine ⟨?_, flowing⟩
      refine .of_flowing flowing flowing sound.remembers (fun _ => resting) arriving rfl
        (congrArg (reader.buffer ++ ·) content) rfl rfl outages ?_
      have size : (Chunk.bytes []).size = 0 := rfl
      have behind : Intake.potential ⟨(reader.makeRoom.absorb (.bytes [])).2, later⟩
          = 4 * Line.arrivalBytes later + 2 * later.length + reader.buffer.length + 3 :=
        Intake.potential_of_idle idle later
      rw [behind, before]
      simp only [FrameReader.absorb, Option.toList_none, List.length_nil]
      omega
    | cons byte others =>
      refine ⟨?_, rfl⟩
      refine .of_flowing flowing rfl (sound.remembers.append _) ?resting arriving rfl ?ahead rfl rfl
        outages ?potential
      case resting => simp [FrameReader.absorb, FrameReader.makeRoom, idle.2.2]
      case ahead =>
        simp only [Intake.ahead, FrameReader.absorb, FrameReader.makeRoom]
        rw [List.append_assoc]
        exact congrArg (reader.buffer ++ ·) content
      case potential =>
        have size : (Chunk.bytes (byte :: others)).size = others.length + 1 := rfl
        have behind :
            Intake.potential ⟨(reader.makeRoom.absorb (.bytes (byte :: others))).2, later⟩
              = 4 * Line.arrivalBytes later + 2 * later.length
                + (reader.buffer.length + (others.length + 1)) + 5 := by
          simp [Intake.potential, FrameReader.absorb, FrameReader.makeRoom, idle.2.2]
        rw [behind, before]
        simp only [FrameReader.absorb, Option.toList_none, List.length_nil]
        omega

/-- The end of the input calls for a last look. -/
theorem finish_passing (sound : Intake.Sound now ⟨reader, []⟩) (idle : reader.Idle) :
    Passing now ⟨reader, []⟩ []
      ⟨{ reader.makeRoom with ended := true, readable := true }, []⟩ := by
  obtain ⟨flowing, unreadable, unerrored⟩ := idle
  have unreported : ¬ Intake.Reported
      ⟨{ reader.makeRoom with ended := true, readable := true }, []⟩ := by
    simp [Intake.Reported, FrameReader.makeRoom, unerrored]
  have soundAfter : Intake.Sound now
      ⟨{ reader.makeRoom with ended := true, readable := true }, []⟩ := {
    remembers := sound.remembers
    resting := by simp [FrameReader.makeRoom, unerrored]
    emptied := fun _ reported => absurd reported unreported
    roomy := fun _ => Storage.free_makeRoom_pos ..
    arriving := sound.arriving
    last := fun _ => rfl }
  refine .of_still soundAfter rfl rfl rfl rfl rfl ?unreported ?reported ?potential
  case unreported => exact fun reported => absurd reported unreported
  case reported =>
    intro reported
    exact absurd (flowing.symm.trans reported.1) Bool.false_ne_true
  case potential =>
    simp [Intake.potential, FrameReader.makeRoom, flowing, unreadable, unerrored]

/-- The last look gives something: at the end of the input no reader stays idle. -/
theorem last_look_passing {after : FrameReader} (sound : Intake.Sound now ⟨reader, []⟩)
    (idle : reader.Idle)
    (finished : { reader.makeRoom with ended := true, readable := true } = after) :
    ∃ poll, after.settle.1 = some poll ∧
      Passing now ⟨reader, []⟩ [poll] ⟨after.settle.2.1, []⟩ := by
  have finishing := finish_passing sound idle
  rw [finished] at finishing
  have ended : after.ended = true := by rw [← finished]
  have readable : after.readable = true := by rw [← finished]
  have going : ¬ Intake.Exhausted ⟨after, []⟩ := by
    simp [Intake.Exhausted, readable]
  obtain ⟨looking, idleAfter⟩ := settle_passing finishing.sound going
  cases given : after.settle.1 with
  | none =>
    have endedAfter := after.ended_settle
    rw [(idleAfter given).1, ended] at endedAfter
    cases endedAfter
  | some poll =>
    rw [given] at looking
    exact ⟨poll, rfl, finishing.trans looking⟩

/-- A poll of a closed line that can still give something is a passing with one answer. -/
theorem Line.pollReader_passing (sound : Intake.Sound now ⟨reader, arrivals⟩)
    (going : ¬ Intake.Exhausted ⟨reader, arrivals⟩) :
    Passing now ⟨reader, arrivals⟩ [(pollReader now true reader arrivals).poll]
      ⟨(pollReader now true reader arrivals).reader,
        (pollReader now true reader arrivals).arrivals⟩ := by
  fun_induction pollReader now true reader arrivals with
  | case1 reader arrivals poll settled events settledEq =>
    have settling := (settle_passing sound going).1
    rw [settledEq] at settling
    exact settling
  | case2 reader settled events settledEq closed poll after absorbedEq =>
    have idle := (settle_passing sound going).2
    rw [settledEq] at idle
    have flowing : settled.ended = false := (idle rfl).1
    simp [FrameReader.absorb, FrameReader.makeRoom, flowing] at absorbedEq
  | case3 reader settled events settledEq closed after absorbedEq last =>
    obtain ⟨settling, idle⟩ := settle_passing sound going
    rw [settledEq] at settling idle
    have flowing : settled.ended = false := (idle rfl).1
    have finished : { settled.makeRoom with ended := true, readable := true } = after := by
      simpa [FrameReader.absorb, FrameReader.makeRoom, flowing] using absorbedEq
    obtain ⟨poll, given, looking⟩ := last_look_passing settling.sound (idle rfl) finished
    have passing := settling.trans looking
    simpa [last, given] using passing
  | case4 reader settled events settledEq opened => exact absurd rfl opened
  | case5 reader settled events settledEq arrival later due space poll after absorbedEq =>
    obtain ⟨settling, idle⟩ := settle_passing sound going
    rw [settledEq] at settling idle
    have read : Arrival.Read now (arrival :: later) (arrival.cut space).1
        ((arrival.cut space).2 ++ later) :=
      arrival.read_cut (Storage.free_makeRoom_pos ..) sound.arriving
    obtain ⟨absorbing, _⟩ := absorb_passing settling.sound (idle rfl) read
    rw [absorbedEq] at absorbing
    exact settling.trans absorbing
  | case6 reader settled events settledEq arrival later due space after absorbedEq polled
      inductionHypothesis =>
    obtain ⟨settling, idle⟩ := settle_passing sound going
    rw [settledEq] at settling idle
    have read : Arrival.Read now (arrival :: later) (arrival.cut space).1
        ((arrival.cut space).2 ++ later) :=
      arrival.read_cut (Storage.free_makeRoom_pos ..) sound.arriving
    obtain ⟨absorbing, flowing⟩ := absorb_passing settling.sound (idle rfl) read
    rw [absorbedEq] at absorbing flowing
    have goingAfter : ¬ Intake.Exhausted ⟨after, (arrival.cut space).2 ++ later⟩ := by
      intro exhausted
      exact absurd (flowing.symm.trans exhausted.1) Bool.false_ne_true
    exact settling.trans (absorbing.trans (inductionHypothesis absorbing.sound goingAfter))
  | case7 reader settled events settledEq arrival later early =>
    exact absurd (sound.arriving arrival (List.mem_cons_self ..)).1 early

/-- A reader that has given everything gives the end of the stream again and does not change. -/
theorem Line.pollReader_of_exhausted (sound : Intake.Sound now ⟨reader, arrivals⟩)
    (exhausted : Intake.Exhausted ⟨reader, arrivals⟩) :
    pollReader now true reader arrivals = ⟨.ended, reader, [], []⟩ := by
  obtain ⟨ended, unreadable, unerrored⟩ := exhausted
  have nothing : arrivals = [] := sound.last ended
  have settledEq : reader.settle = (none, reader, []) := by
    simp only at unreadable unerrored
    simp [FrameReader.settle, unreadable, unerrored]
  have makeRoomEq : reader.makeRoom = reader := by
    rw [FrameReader.makeRoom, Storage.makeRoom_of_free _ (sound.roomy ended)]
  have absorbEq : reader.absorb .ended = (some .ended, reader) := if_pos ended
  rw [nothing, pollReader]
  simp only [settledEq, makeRoomEq, absorbEq, if_true]

end MeterBus
