import MeterBus.Proofs.Codec.Session
import MeterBus.Proofs.Frame.RoundTrip
import Mathlib.Data.List.Basic

/-!
# Gaps between frames

The bytes that a codec drops between two frames make one gap, however many uses it takes to drop them
and wherever the chunks of the input end. A gap is reported with one warning at its first byte, and the
frame that ends it comes with one record of its length. `Stretch` is a frame with the gap in front of
it. What one use drops and gives is put behind the gap that is open, and the count of skipped bytes
measures that gap: `Narrates` says so of a whole session.
-/

namespace MeterBus

namespace Codec

/-- What leaves the buffer of a codec. -/
inductive Departure where
  /-- A byte that is dropped. -/
  | byte (value : UInt8)
  /-- A frame that is given. -/
  | frame (given : Frame)
  deriving DecidableEq, Repr

/-- The bytes that leave the buffer. -/
def Departure.bytes : Departure → List UInt8
  | .byte value => [value]
  | .frame given => given.layout

/-- What leaves the buffer in one use: the bytes at its front by which the count of dropped bytes grows,
and then the frame that is given. -/
def Outcome.departures (codec : Codec) (buffer : List UInt8) (outcome : Outcome) : List Departure :=
  (buffer.take (outcome.codec.discarded - codec.discarded)).map .byte
    ++ outcome.frame?.toList.map .frame

/-- What leaves the buffer in the course of some uses, in order. -/
def Session.departures (session : Session) : List Operation → List Departure
  | [] => []
  | operation :: later =>
    (session.codec.perform session.buffer operation).departures session.codec session.buffer
      ++ (session.use operation).departures later

/-- Whether an event tells of the bytes that come in. -/
def Event.isReception : Event → Bool
  | .encoded _ => false
  | _ => true

/-- What was told of the bytes that came in so far, in order. -/
def Session.receptions (session : Session) : List Event :=
  session.outcomes.flatMap (·.events.filter (·.isReception))

/-- Bytes that are dropped one after the other, each for a reason. -/
abbrev Gap := List (DropReason × UInt8)

namespace Gap

/-- What leaves the buffer in a gap. -/
def departures (gap : Gap) : List Departure :=
  gap.map fun drop => .byte drop.2

/-- The warning at the first byte of a gap. -/
def warning? (gap : Gap) : Option Event :=
  gap.head?.map fun drop => .lostSync drop.1 drop.2

/-- The remarks at the further bytes of a gap. -/
def remarks (gap : Gap) : List Event :=
  gap.tail.map fun drop => .dropped drop.1 drop.2

/-- What is told of a gap. -/
def events (gap : Gap) : List Event :=
  gap.warning?.toList ++ gap.remarks

end Gap

/-- A frame and the gap in front of it, which may be empty. -/
structure Stretch where
  gap : Gap
  frame : Frame

namespace Stretch

/-- What leaves the buffer in a stretch. -/
def departures (stretch : Stretch) : List Departure :=
  stretch.gap.departures ++ [.frame stretch.frame]

/-- The record of the length of a gap, when a frame ends it. -/
def recovery? (stretch : Stretch) : Option Event :=
  if stretch.gap = [] then none else some (.recovered stretch.gap.length)

/-- What is told of a stretch. -/
def events (stretch : Stretch) : List Event :=
  stretch.gap.events
    ++ .decoded stretch.frame stretch.frame.encodedLength :: stretch.recovery?.toList

end Stretch

/-- What is told of a gap, and of the frame that ends it if there is one. -/
def told (gap : Gap) : Option Frame → List Event
  | none => gap.events
  | some frame => Stretch.events ⟨gap, frame⟩

/-- A byte is told of according to the gap that it goes on. -/
theorem Gap.events_append_singleton {codec : Codec} {gap : Gap} (reason : DropReason)
    (byte : UInt8) (length : gap.length = codec.skipping) :
    Gap.events (gap ++ [(reason, byte)]) = gap.events ++ [codec.dropEvent reason byte] := by
  cases gap with
  | nil =>
    have none : codec.skipping = 0 := length.symm
    simp [events, warning?, remarks, dropEvent, none]
  | cons first later =>
    have some : codec.skipping ≠ 0 := by
      rw [← length, List.length_cons]
      omega
    simp [events, warning?, remarks, dropEvent, some]

/-- A test that every event of a gap passes. -/
theorem Gap.forall_events {test : Event → Prop} (gap : Gap)
    (first : ∀ reason byte, test (.lostSync reason byte))
    (further : ∀ reason byte, test (.dropped reason byte)) : ∀ event ∈ gap.events, test event := by
  cases gap with
  | nil => simp [events, warning?, remarks]
  | cons drop later =>
    change ∀ event ∈ .lostSync drop.1 drop.2 :: later.map _, test event
    rw [List.forall_mem_cons, List.forall_mem_map]
    exact ⟨first .., fun drop _ => further ..⟩

/-- What is told of gaps and frames tells of the bytes that come in. -/
theorem filter_told (gap : Gap) (given : Option Frame) :
    (told gap given).filter (·.isReception) = told gap given := by
  rw [List.filter_eq_self]
  have ofGap : ∀ event ∈ gap.events, event.isReception = true :=
    gap.forall_events (fun _ _ => rfl) fun _ _ => rfl
  cases given with
  | none => exact ofGap
  | some frame =>
    rw [told, Stretch.events, List.forall_mem_append, List.forall_mem_cons, Stretch.recovery?]
    refine ⟨ofGap, rfl, ?_⟩
    split
    · simp
    · simp [Event.isReception]

/-! ## One use -/

/-- What is dropped and given of a buffer, and what is told of that: the gap that was open goes on with
the dropped bytes, and ends with the frame. -/
structure Tells (codec : Codec) (buffer : List UInt8) (outcome : Outcome) (dropped : Gap)
    (events : List Event) : Prop where
  split : buffer = dropped.map (·.2) ++ (outcome.frame?.elim [] Frame.layout ++ outcome.buffer)
  counted : outcome.codec.discarded = codec.discarded + dropped.length
  skipping : outcome.codec.skipping = outcome.frame?.elim (codec.skipping + dropped.length) fun _ => 0
  events_eq : ∀ gap : Gap, gap.length = codec.skipping →
    gap.events ++ events = told (gap ++ dropped) outcome.frame?

variable {codec : Codec} {buffer : List UInt8} {outcome : Outcome} {dropped : Gap}
  {events : List Event}

/-- Nothing is dropped, given or told. -/
theorem Tells.nothing {result : Except LinkError (Option Frame)} {after : Codec}
    (frameless : ∀ frame, result ≠ .ok (some frame)) (discarded : after.discarded = codec.discarded)
    (skipping : after.skipping = codec.skipping) :
    Tells codec buffer ⟨result, after, buffer, events⟩ [] [] := by
  have none : Outcome.frame? ⟨result, after, buffer, events⟩ = none := by
    rcases result with _ | _ | frame
    · rfl
    · rfl
    · exact absurd rfl (frameless frame)
  constructor
  · simp [none]
  · simpa using discarded
  · simpa [none] using skipping
  · simp [none, told]

/-- A byte is dropped in front of what is dropped later. -/
theorem Tells.cons (tells : Tells codec.afterDrop buffer outcome dropped events)
    (reason : DropReason) (byte : UInt8) :
    Tells codec (byte :: buffer) outcome ((reason, byte) :: dropped)
      (codec.dropEvent reason byte :: events) := by
  have counted := tells.counted
  have skipping := tells.skipping
  constructor
  · rw [List.map_cons, List.cons_append, ← tells.split]
  · rw [counted, List.length_cons]
    simp only [afterDrop]
    omega
  · rw [skipping, List.length_cons]
    cases outcome.frame? with
    | none => simp only [afterDrop, Option.elim_none]; omega
    | some frame => rfl
  · intro gap length
    have further := tells.events_eq (gap ++ [(reason, byte)]) (by simp [afterDrop, length])
    rw [Gap.events_append_singleton reason byte length, List.append_assoc, List.append_assoc] at further
    exact further

/-- A look tells of what it drops and gives, behind what was reported before. -/
theorem look_tells (ended : Bool) (codec : Codec) (reported : List Event) (buffer : List UInt8) :
    ∃ dropped events, (look ended codec reported buffer).events = reported.reverse ++ events ∧
      Tells codec buffer (look ended codec reported buffer) dropped events := by
  induction buffer generalizing codec reported with
  | nil => exact ⟨[], [], (List.append_nil _).symm, .nothing (by simp) rfl rfl⟩
  | cons byte rest inductionHypothesis =>
    have behind (reason : DropReason) : ∃ dropped events,
        (look ended codec.afterDrop (codec.dropEvent reason byte :: reported) rest).events
          = reported.reverse ++ events ∧
        Tells codec (byte :: rest)
          (look ended codec.afterDrop (codec.dropEvent reason byte :: reported) rest) dropped events := by
      obtain ⟨dropped, events, eventsEq, tells⟩ :=
        inductionHypothesis codec.afterDrop (codec.dropEvent reason byte :: reported)
      refine ⟨_, _, ?_, tells.cons reason byte⟩
      rw [eventsEq, List.reverse_cons, List.append_assoc]
      rfl
    rw [look]
    split
    · next consumed frame accepted =>
      refine ⟨[], codec.frameEvents frame consumed, rfl, ?_, rfl, rfl, ?_⟩
      · exact Frame.eq_layout_append_of_read accepted
      · intro gap length
        rw [List.append_nil, frameEvents, Frame.consumed_eq_of_read accepted, ← length]
        cases gap <;> rfl
    · split
      · exact behind _
      · exact ⟨[], [], (List.append_nil _).symm, .nothing (by simp) rfl rfl⟩
    · split
      · exact behind _
      · exact ⟨[], [], (List.append_nil _).symm, .nothing (by simp) rfl rfl⟩

/-- Decoding tells of what it drops and gives. -/
theorem decode_tells (codec : Codec) (buffer : List UInt8) :
    ∃ dropped, Tells codec buffer (codec.decode buffer) dropped (codec.decode buffer).events := by
  unfold decode
  split
  · exact ⟨[], .nothing (by simp) rfl rfl⟩
  · obtain ⟨dropped, events, eventsEq, tells⟩ := look_tells false codec [] buffer
    rw [List.reverse_nil, List.nil_append] at eventsEq
    exact ⟨dropped, eventsEq ▸ tells⟩

/-- Decoding at the end of the input tells of what it drops and gives. -/
theorem decodeEnd_tells (codec : Codec) (buffer : List UInt8) :
    ∃ dropped, Tells codec buffer (codec.decodeEnd buffer) dropped (codec.decodeEnd buffer).events := by
  unfold decodeEnd
  split
  · split
    · exact ⟨[], .nothing (by simp) rfl rfl⟩
    · next byte rest =>
      split
      · obtain ⟨dropped, events, eventsEq, tells⟩ :=
          look_tells true codec.afterDrop [codec.dropEvent .truncated byte] rest
        rw [List.reverse_singleton, List.singleton_append] at eventsEq
        exact ⟨_, eventsEq ▸ tells.cons .truncated byte⟩
      · obtain ⟨dropped, events, eventsEq, tells⟩ := look_tells true codec [] (byte :: rest)
        rw [List.reverse_nil, List.nil_append] at eventsEq
        exact ⟨dropped, eventsEq ▸ tells⟩
  · obtain ⟨dropped, tells⟩ := decode_tells codec buffer
    dsimp only
    split
    · next nothing _ =>
      have none : (codec.decode buffer).frame? = none := by rw [Outcome.frame?, nothing]
      -- the failure that stands in for nothing gives no frame either
      obtain ⟨splitting, counted, skipping, eventsEq⟩ := tells
      rw [none] at splitting skipping eventsEq
      exact ⟨dropped, splitting, counted, skipping, eventsEq⟩
    · exact ⟨dropped, tells⟩

/-- What one use of a codec drops and gives, behind whose buffer it puts some bytes. -/
structure Recounts (codec : Codec) (buffer content : List UInt8) (outcome : Outcome)
    (dropped : Gap) : Prop where
  tells : Tells codec (buffer ++ content) outcome dropped (outcome.events.filter (·.isReception))
  departures : outcome.departures codec buffer =
    dropped.departures ++ outcome.frame?.toList.map .frame

/-- Asking for a frame recounts what is told of it. -/
theorem Recounts.of_tells (tells : Tells codec buffer outcome dropped outcome.events) :
    Recounts codec buffer [] outcome dropped := by
  obtain ⟨splitting, counted, skipping, eventsEq⟩ := tells
  refine ⟨⟨?_, counted, skipping, ?_⟩, ?_⟩
  · rw [List.append_nil]
    exact splitting
  · intro gap length
    have receptions := congrArg (List.filter (·.isReception)) (eventsEq gap length)
    have gapOnly : gap.events.filter (·.isReception) = gap.events := filter_told gap none
    rwa [List.filter_append, gapOnly, filter_told] at receptions
  · have front : buffer.take dropped.length = dropped.map (·.2) := by
      rw [splitting]
      exact List.take_left' (List.length_map _)
    rw [Outcome.departures, counted, Nat.add_sub_cancel_left, front, List.map_map]
    rfl

/-- Putting bytes behind the buffer, or declining to, drops and gives nothing. -/
theorem Recounts.of_supply {result : Except LinkError (Option Frame)} {content : List UInt8}
    (frameless : ∀ frame, result ≠ .ok (some frame))
    (unheard : events.filter (·.isReception) = []) :
    Recounts codec buffer content ⟨result, codec, buffer ++ content, events⟩ [] := by
  constructor
  · rw [unheard]
    exact .nothing frameless rfl rfl
  · rcases result with _ | _ | frame
    · simp [Outcome.departures, Gap.departures, Outcome.frame?]
    · simp [Outcome.departures, Gap.departures, Outcome.frame?]
    · exact absurd rfl (frameless frame)

/-- Every use recounts what it drops and gives. -/
theorem perform_recounts (codec : Codec) (buffer : List UInt8) (operation : Operation) :
    ∃ dropped, Recounts codec buffer operation.supplied (codec.perform buffer operation) dropped := by
  cases operation with
  | append content => exact ⟨[], .of_supply (by simp) rfl⟩
  | decode =>
    obtain ⟨dropped, tells⟩ := decode_tells codec buffer
    exact ⟨dropped, .of_tells tells⟩
  | decodeEnd =>
    obtain ⟨dropped, tells⟩ := decodeEnd_tells codec buffer
    exact ⟨dropped, .of_tells tells⟩
  | encode frame =>
    simp only [perform, encode, Operation.supplied]
    cases frame.encode with
    | ok wire => exact ⟨[], .of_supply (by simp) rfl⟩
    | error cause =>
      have declined : Recounts codec buffer [] ⟨.error (.unsendable cause), codec, buffer ++ [], []⟩ [] :=
        .of_supply (by simp) rfl
      rw [List.append_nil] at declined
      exact ⟨[], declined⟩

/-! ## Sessions -/

namespace Session

/-- Whether what left the buffer of a session is made of these stretches and an open gap, and was told
like that. -/
structure Narrates (departures : List Departure) (stretches : List Stretch) (opened : Gap)
    (session : Session) : Prop where
  departures_eq : departures = stretches.flatMap Stretch.departures ++ opened.departures
  receptions_eq : session.receptions = stretches.flatMap Stretch.events ++ opened.events
  skipping_eq : session.codec.skipping = opened.length
  discarded_eq : session.codec.discarded = (stretches.map (·.gap.length)).sum + opened.length

variable {session : Session} {departures : List Departure} {stretches : List Stretch} {opened : Gap}

/-- What is told in one use comes behind what was told before. -/
theorem receptions_use (session : Session) (operation : Operation) :
    (session.use operation).receptions = session.receptions ++
      (session.codec.perform session.buffer operation).events.filter (·.isReception) := by
  simp only [receptions, use, List.flatMap_append, List.flatMap_singleton]

/-- One use goes on with the open gap, and ends it with the frame that it gives. -/
theorem Narrates.use (narrates : session.Narrates departures stretches opened)
    (operation : Operation) :
    ∃ stretches opened, (session.use operation).Narrates
      (departures ++ (session.codec.perform session.buffer operation).departures session.codec
        session.buffer) stretches opened := by
  obtain ⟨departuresEq, receptionsEq, skippingEq, discardedEq⟩ := narrates
  obtain ⟨dropped, ⟨_, counted, skipping, eventsEq⟩, departing⟩ :=
    perform_recounts session.codec session.buffer operation
  have telling := eventsEq opened skippingEq.symm
  have receptions := receptions_use session operation
  rw [receptionsEq, List.append_assoc, telling] at receptions
  rw [departing, departuresEq]
  cases given : (session.codec.perform session.buffer operation).frame? with
  | none =>
    rw [given] at skipping receptions
    refine ⟨stretches, opened ++ dropped, ?_, receptions, ?_, ?_⟩
    · simp [Gap.departures]
    · rw [List.length_append, ← skippingEq]
      exact skipping
    · rw [List.length_append, ← Nat.add_assoc, ← discardedEq]
      exact counted
  | some frame =>
    rw [given] at skipping receptions
    refine ⟨stretches ++ [⟨opened ++ dropped, frame⟩], [], ?_, ?_, skipping, ?_⟩
    · simp [Gap.departures, Stretch.departures]
    · rw [List.flatMap_append, List.flatMap_singleton, List.append_assoc, receptions]
      exact congrArg _ (List.append_nil _).symm
    · simp only [List.map_append, List.map_cons, List.map_nil, List.sum_append, List.sum_singleton,
        List.length_append, List.length_nil, Nat.add_zero]
      rw [← Nat.add_assoc, ← discardedEq]
      exact counted

/-- Every use goes on with what was told before. -/
theorem Narrates.after (narrates : session.Narrates departures stretches opened)
    (operations : List Operation) :
    ∃ stretches opened, (session.after operations).Narrates
      (departures ++ session.departures operations) stretches opened := by
  induction operations generalizing session departures stretches opened with
  | nil => exact ⟨stretches, opened, by simpa [Session.departures, Session.after] using narrates⟩
  | cons operation later inductionHypothesis =>
    obtain ⟨_, _, narratesThen⟩ := narrates.use operation
    obtain ⟨stretches, opened, narratesAfter⟩ := inductionHypothesis narratesThen
    rw [List.append_assoc] at narratesAfter
    exact ⟨stretches, opened, narratesAfter⟩

end Session

/-! ## What the log shows -/

example : ((Session.start true).after [.append [0x00, 0x01], .decode, .append [0x02, 0xE5, 0xE5],
    .decode, .decode, .append [0x10], .decodeEnd]).receptions =
      [.lostSync (.invalid (.unexpectedStart 0x00)) 0x00,
        .dropped (.invalid (.unexpectedStart 0x01)) 0x01,
        .dropped (.invalid (.unexpectedStart 0x02)) 0x02,
        .decoded .single 1, .recovered 3, .decoded .single 1, .lostSync .truncated 0x10] := rfl

end Codec

end MeterBus
