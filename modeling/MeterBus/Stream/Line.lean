import MeterBus.Stream.FrameReader

/-!
# The line of a port

A line is what a port is connected to: the chunks that will arrive on it and when, the answers that
its writes call forth, the writes that will fail, and the reader that takes frames off it. Times are
milliseconds on one clock. `Line.poll` and `Line.send` are the two things a program does with a
line; the rest lays out what will happen on it.
-/

namespace MeterBus

/-- A chunk and the time from which on it can be read. -/
structure Arrival where
  due : Nat
  chunk : Chunk
  deriving DecidableEq, Repr

/-- A chunk to arrive some time after an event. -/
structure Delivery where
  delay : Nat
  chunk : Chunk
  deriving DecidableEq, Repr

/-- The arrivals of the deliveries that set out now. One without bytes never shows. -/
def Delivery.arrivals (now : Nat) (deliveries : List Delivery) : List Arrival :=
  (deliveries.filter (·.chunk != .bytes [])).map fun delivery =>
    ⟨now + delivery.delay, delivery.chunk⟩

/-- What one read takes of an arrival when there is so much space for bytes, and what it leaves. -/
def Arrival.cut (space : Nat) (arrival : Arrival) : Chunk × List Arrival :=
  match arrival.chunk with
  | .bytes content =>
    (.bytes (content.take space),
      match content.drop space with
      | [] => []
      | rest => [{ arrival with chunk := .bytes rest }])
  | chunk => (chunk, [])

/-- A line between two uses. -/
structure Line where
  reader : FrameReader
  /-- What will be read, strictly in this order: one that is not due holds back those behind it. -/
  arrivals : List Arrival := []
  /-- Whether the transport ends behind the last arrival. -/
  closed : Bool := false
  /-- The deliveries that the next successful writes call forth, one list a write. -/
  answers : List (List Delivery) := []
  /-- How the very next writes fail, one after the other. No write succeeds while there are any left,
  so that within one send a write that relieves the line never succeeds where the one behind it, that
  of the frame, fails: that course is outside the model. -/
  faults : List LinkError := []
  /-- Bytes that a failed write left behind; they go out in front of the next frame. -/
  unsent : List UInt8 := []
  deriving DecidableEq, Repr

namespace Line

/-- A quiet line. -/
def fresh (codec : Codec) : Line := { reader := .fresh codec }

/-- The line with one more delivery on its way. -/
def feed (now : Nat) (delivery : Delivery) (line : Line) : Line :=
  { line with arrivals := line.arrivals ++ Delivery.arrivals now [delivery] }

/-- The line whose transport ends behind what is on its way. -/
def close (line : Line) : Line := { line with closed := true }

/-- The line with one more answer prepared. -/
def prepare (answer : List Delivery) (line : Line) : Line :=
  { line with answers := line.answers ++ [answer] }

/-- The line with one more failing write ahead. -/
def breakWrite (fault : LinkError) (line : Line) : Line :=
  { line with faults := line.faults ++ [fault] }

/-- What a poll of a reader gives and leaves. -/
structure Polled where
  poll : Poll
  reader : FrameReader
  arrivals : List Arrival
  events : List Codec.Event
  deriving DecidableEq, Repr

/-- The number of bytes on their way in a list of arrivals. -/
def arrivalBytes : List Arrival → Nat
  | [] => 0
  | arrival :: later => arrival.chunk.size + arrivalBytes later

theorem arrivalBytes_append (arrivals later : List Arrival) :
    arrivalBytes (arrivals ++ later) = arrivalBytes arrivals + arrivalBytes later := by
  induction arrivals with
  | nil => simp [arrivalBytes]
  | cons arrival arrivals inductionHypothesis =>
    simp [arrivalBytes, inductionHypothesis, Nat.add_assoc]

/-- A read leaves those bytes of an arrival that it did not take. -/
theorem size_cut (space : Nat) (arrival : Arrival) :
    (arrival.cut space).1.size + arrivalBytes (arrival.cut space).2 = arrival.chunk.size := by
  unfold Arrival.cut
  split
  · next content contentEq =>
    have length : (content.drop space).length = content.length - space := List.length_drop
    split
    · next none =>
      rw [none] at length
      simp only [List.length_nil] at length
      simp [contentEq, Chunk.size, arrivalBytes]
      omega
    · simp [contentEq, Chunk.size, arrivalBytes, length]
      omega
  · simp [arrivalBytes]

/-- A read with space for a byte makes what is on its way less. -/
theorem cut_lt {space : Nat} (room : 0 < space) (arrival : Arrival) (later : List Arrival) :
    arrivalBytes ((arrival.cut space).2 ++ later) + ((arrival.cut space).2 ++ later).length
      < arrivalBytes (arrival :: later) + (arrival :: later).length := by
  have size := size_cut space arrival
  unfold Arrival.cut at size ⊢
  split at size
  · next content contentEq =>
    have length : (content.drop space).length = content.length - space := List.length_drop
    dsimp only at size ⊢
    split at size
    · simp only [List.nil_append, arrivalBytes, List.length_cons]
      omega
    · next some =>
      have left : 0 < (content.drop space).length := List.length_pos_iff.2 some
      simp [contentEq, Chunk.size, arrivalBytes, length]
      omega
  · simp only [List.nil_append, arrivalBytes, List.length_cons]
    omega

/-- Polls a reader whose transport gives these arrivals. -/
def pollReader (now : Nat) (closed : Bool) (reader : FrameReader) (arrivals : List Arrival) :
    Polled :=
  match reader.settle with
  | (some poll, settled, events) => ⟨poll, settled, arrivals, events⟩
  | (none, settled, events) =>
    match arrivals with
    | [] =>
      if closed then
        match settled.makeRoom.absorb .ended with
        | (some poll, after) => ⟨poll, after, [], events⟩
        | (none, after) =>
          let last := after.settle
          ⟨last.1.getD .ended, last.2.1, [], events ++ last.2.2⟩
      else
        ⟨.pending, settled, [], events⟩
    | arrival :: later =>
      if arrival.due ≤ now then
        let space := settled.makeRoom.storage.free
        match settled.makeRoom.absorb (arrival.cut space).1 with
        | (some poll, after) => ⟨poll, after, (arrival.cut space).2 ++ later, events⟩
        | (none, after) =>
          let polled := pollReader now closed after ((arrival.cut space).2 ++ later)
          { polled with events := events ++ polled.events }
      else
        ⟨.pending, settled, arrivals, events⟩
termination_by arrivalBytes arrivals + arrivals.length
decreasing_by exact cut_lt (Storage.free_makeRoom_pos ..) arrival later

/-- Asks the line for a frame at a given time. -/
def poll (now : Nat) (line : Line) : Poll × Line × List Codec.Event :=
  let polled := pollReader now line.closed line.reader line.arrivals
  (polled.poll, { line with reader := polled.reader, arrivals := polled.arrivals }, polled.events)

/-- Writes what stands in the send buffer of the line, all at once: a write is never pending and never
takes some of the bytes only. One that succeeds calls forth the next answer; the faults of a line are
those of the very next writes, and one that fails leaves the bytes where they are. -/
def flush (now : Nat) (line : Line) : Except LinkError (List UInt8) × Line :=
  match line.faults with
  | fault :: faults => (.error fault, { line with faults := faults })
  | [] =>
    (.ok line.unsent,
      { line with
        unsent := []
        arrivals := line.arrivals ++ Delivery.arrivals now (line.answers.headD [])
        answers := line.answers.tail })

/-- The number of unsent bytes from which on they have to go out before a further frame is taken. -/
def backlogLimit : Nat := 8192

/-- Writes what earlier failures left behind if that has become too much. -/
def relieve (now : Nat) (line : Line) : Except LinkError (List UInt8) × Line :=
  if backlogLimit ≤ line.unsent.length then line.flush now else (.ok [], line)

/-- What sending a frame gives and leaves. -/
structure Sent where
  /-- The bytes that went out with the frame. -/
  written : Except LinkError (List UInt8)
  /-- The bytes of earlier frames that went out before the frame was taken. -/
  relieved : List UInt8
  line : Line
  events : List Codec.Event

/-- Sends a frame at a given time, in one write with what an earlier failure left behind. -/
def send (now : Nat) (frame : Frame) (line : Line) : Sent :=
  match line.relieve now with
  | (.error cause, after) => ⟨.error cause, [], after, []⟩
  | (.ok relieved, ready) =>
    let outcome := ready.reader.codec.encode frame ready.unsent
    match outcome.result with
    | .error cause => ⟨.error cause, relieved, ready, outcome.events⟩
    | .ok _ =>
      let flushed := { ready with unsent := outcome.buffer }.flush now
      ⟨flushed.1, relieved, flushed.2, outcome.events⟩

/-- The times at which something becomes readable on the line. -/
def dueTimes (line : Line) : List Nat :=
  line.arrivals.map (·.due)

/-- Insertion into an ascending list of times. -/
def insertTime (time : Nat) : List Nat → List Nat
  | [] => [time]
  | first :: later => if time ≤ first then time :: first :: later else first :: insertTime time later

/-- The times after `now` and up to `limit` from a list, in ascending order. -/
def timesWithin (now limit : Nat) (times : List Nat) : List Nat :=
  (times.filter fun time => now < time && time ≤ limit).foldr insertTime []

/-- What waiting for a line gives and leaves. -/
structure Awaited where
  /-- What came; nothing if the wait was in vain. -/
  poll : Poll
  /-- The time of the last poll. -/
  time : Nat
  line : Line
  events : List Codec.Event

/-- Polls a line now and then at each of some later times until it gives something. -/
def awaitAt (now : Nat) (line : Line) (later : List Nat) : Awaited :=
  match line.poll now with
  | (.pending, after, events) =>
    match later with
    | [] => ⟨.pending, now, after, events⟩
    | next :: rest =>
      let awaited := awaitAt next after rest
      { awaited with events := events ++ awaited.events }
  | (poll, after, events) => ⟨poll, now, after, events⟩

/-- Waits for a line until a time that has still to be waited for. -/
def await (now limit : Nat) (line : Line) : Awaited :=
  awaitAt now line (timesWithin now limit line.dueTimes)

/-- The number of bytes in an answer. -/
def answerBytes : List Delivery → Nat
  | [] => 0
  | delivery :: others => delivery.chunk.size + answerBytes others

theorem answerBytes_append (answer others : List Delivery) :
    answerBytes (answer ++ others) = answerBytes answer + answerBytes others := by
  induction answer with
  | nil => simp [answerBytes]
  | cons delivery answer inductionHypothesis =>
    simp [answerBytes, inductionHypothesis, Nat.add_assoc]

/-- The number of bytes that the line can still give: buffered, on their way, or in an answer. -/
def supply (line : Line) : Nat :=
  line.reader.buffer.length + arrivalBytes line.arrivals + answerBytes line.answers.flatten

/-- A poll of a reader uses up what it gives. -/
theorem pollReader_length (now : Nat) (closed : Bool) (reader : FrameReader)
    (arrivals : List Arrival) :
    let polled := pollReader now closed reader arrivals
    polled.reader.buffer.length + arrivalBytes polled.arrivals
        ≤ reader.buffer.length + arrivalBytes arrivals ∧
      (∀ frame, polled.poll = .frame frame →
        polled.reader.buffer.length + arrivalBytes polled.arrivals
          < reader.buffer.length + arrivalBytes arrivals) := by
  fun_induction pollReader now closed reader arrivals with
  | case1 reader arrivals poll settled events settledEq =>
    have settling : settled.buffer.length ≤ reader.buffer.length := by
      simpa [settledEq] using reader.length_settle_le
    have giving := @FrameReader.length_settle_lt reader
    rw [settledEq] at giving
    refine ⟨by simpa using settling, ?_⟩
    rintro frame rfl
    simpa using giving rfl
  | case2 reader settled events settledEq closed poll after absorbedEq =>
    have settling : settled.buffer.length ≤ reader.buffer.length := by
      simpa [settledEq] using reader.length_settle_le
    have absorbing := settled.makeRoom.length_absorb_le .ended
    have noFrame := settled.makeRoom.absorb_ne_frame .ended
    rw [absorbedEq] at absorbing noFrame
    simp only [Chunk.size, FrameReader.makeRoom] at absorbing
    refine ⟨by simp; omega, ?_⟩
    rintro frame rfl
    exact absurd rfl (noFrame frame)
  | case3 reader settled events settledEq closed after absorbedEq last =>
    have settling : settled.buffer.length ≤ reader.buffer.length := by
      simpa [settledEq] using reader.length_settle_le
    have absorbing := settled.makeRoom.length_absorb_le .ended
    have settlingAgain := after.length_settle_le
    have givingAgain := @FrameReader.length_settle_lt after
    rw [absorbedEq] at absorbing
    simp only [Chunk.size, FrameReader.makeRoom] at absorbing
    refine ⟨by simp [last]; omega, ?_⟩
    intro frame given
    have found : after.settle.1 = some (.frame frame) := by
      cases poll : after.settle.1 with
      | none => simp [last, poll] at given
      | some poll => simpa [last, poll] using given
    have shorter := givingAgain found
    simp only [last, arrivalBytes]
    omega
  | case4 reader settled events settledEq opened =>
    have settling : settled.buffer.length ≤ reader.buffer.length := by
      simpa [settledEq] using reader.length_settle_le
    exact ⟨by simpa using settling, by simp⟩
  | case5 reader settled events settledEq arrival later due space poll after absorbedEq =>
    have settling : settled.buffer.length ≤ reader.buffer.length := by
      simpa [settledEq] using reader.length_settle_le
    have absorbing := settled.makeRoom.length_absorb_le (arrival.cut space).1
    have noFrame := settled.makeRoom.absorb_ne_frame (arrival.cut space).1
    have size := size_cut space arrival
    rw [absorbedEq] at absorbing noFrame
    simp only [FrameReader.makeRoom] at absorbing
    simp only [arrivalBytes, arrivalBytes_append] at size ⊢
    refine ⟨by omega, ?_⟩
    rintro frame rfl
    exact absurd rfl (noFrame frame)
  | case6 reader settled events settledEq arrival later due space after absorbedEq polled rest =>
    have settling : settled.buffer.length ≤ reader.buffer.length := by
      simpa [settledEq] using reader.length_settle_le
    have absorbing := settled.makeRoom.length_absorb_le (arrival.cut space).1
    have size := size_cut space arrival
    rw [absorbedEq] at absorbing
    simp only [FrameReader.makeRoom] at absorbing
    simp only [arrivalBytes, arrivalBytes_append] at size rest ⊢
    refine ⟨by have used := rest.1; simp only [polled]; omega, ?_⟩
    intro frame given
    have shorter := rest.2 frame given
    simp only [polled]
    omega
  | case7 reader settled events settledEq arrival later early =>
    have settling : settled.buffer.length ≤ reader.buffer.length := by
      simpa [settledEq] using reader.length_settle_le
    exact ⟨by simpa using settling, by simp⟩

/-- A poll does not add to what a line can give. -/
theorem supply_poll_le (now : Nat) (line : Line) : (line.poll now).2.1.supply ≤ line.supply := by
  have used := (pollReader_length now line.closed line.reader line.arrivals).1
  simp only [poll, supply]
  omega

/-- A poll that gives a frame takes it from what the line can give. -/
theorem supply_poll_lt {now : Nat} {line : Line} {frame : Frame}
    (given : (line.poll now).1 = .frame frame) : (line.poll now).2.1.supply < line.supply := by
  have used := (pollReader_length now line.closed line.reader line.arrivals).2 frame given
  simp only [poll, supply]
  omega

/-- Deliveries without bytes do not count. -/
theorem arrivalBytes_arrivals (now : Nat) (deliveries : List Delivery) :
    arrivalBytes (Delivery.arrivals now deliveries) = answerBytes deliveries := by
  induction deliveries with
  | nil => rfl
  | cons delivery others inductionHypothesis =>
    simp only [Delivery.arrivals] at inductionHypothesis
    by_cases void : delivery.chunk = .bytes []
    · have nothing : (Chunk.bytes []).size = 0 := rfl
      simp [Delivery.arrivals, answerBytes, void, nothing, inductionHypothesis]
    · simp [arrivalBytes, Delivery.arrivals, answerBytes, void, inductionHypothesis]

/-- A write turns a prepared answer into arrivals, so it does not add to what a line can give. -/
theorem supply_flush (now : Nat) (line : Line) : (line.flush now).2.supply = line.supply := by
  unfold flush
  split
  · rfl
  · have arriving := arrivalBytes_arrivals now (line.answers.headD [])
    simp only [supply, arrivalBytes_append] at arriving ⊢
    cases answersEq : line.answers with
    | nil => simp [answersEq, answerBytes] at arriving ⊢; exact arriving
    | cons answer answers => simp [answersEq, answerBytes_append] at arriving ⊢; omega

/-- Relieving a line of its backlog does not add to what it can give. -/
theorem supply_relieve (now : Nat) (line : Line) : (line.relieve now).2.supply = line.supply := by
  unfold relieve
  split
  · exact supply_flush now line
  · rfl

/-- Sending a frame does not add to what a line can give. -/
theorem supply_send (now : Nat) (frame : Frame) (line : Line) :
    (line.send now frame).line.supply = line.supply := by
  have relieving := supply_relieve now line
  unfold send
  split
  · next relieved => rw [relieved] at relieving; exact relieving
  · next ready relieved =>
    rw [relieved] at relieving
    dsimp only at relieving ⊢
    split
    · exact relieving
    · exact (supply_flush ..).trans relieving

/-- Waiting does not add to what a line can give. -/
theorem supply_awaitAt_le (now : Nat) (line : Line) (later : List Nat) :
    (awaitAt now line later).line.supply ≤ line.supply := by
  induction later generalizing now line with
  | nil =>
    have polling := supply_poll_le now line
    unfold awaitAt
    split <;> simp_all
  | cons next rest inductionHypothesis =>
    have polling := supply_poll_le now line
    unfold awaitAt
    split
    · next after events polledEq =>
      rw [polledEq] at polling
      exact Nat.le_trans (inductionHypothesis next after) polling
    · simp_all

/-- What is ready on a line: frames and the poll behind them, which gives no frame. -/
structure Ready where
  /-- The frames, each with what the codec reported about it. -/
  frames : List (Frame × List Codec.Event)
  last : Poll
  line : Line
  events : List Codec.Event

/-- Takes all that a line gives at once. -/
def readyFrames (now : Nat) (line : Line) : Ready :=
  let polled := line.poll now
  match _given : polled.1 with
  | .frame frame =>
    let others := readyFrames now polled.2.1
    { others with frames := (frame, polled.2.2) :: others.frames }
  | last => ⟨[], last, polled.2.1, polled.2.2⟩
termination_by line.supply
decreasing_by exact supply_poll_lt _given

/-- Taking all frames that are ready does not add to what a line can give. -/
theorem supply_readyFrames_le (now : Nat) (line : Line) :
    (line.readyFrames now).line.supply ≤ line.supply := by
  fun_induction readyFrames now line with
  | case1 line polled frame given others inductionHypothesis =>
    exact Nat.le_trans inductionHypothesis (supply_poll_le now line)
  | case2 line polled noFrame => exact supply_poll_le now line

end Line

end MeterBus
