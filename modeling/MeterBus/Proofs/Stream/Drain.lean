import MeterBus.Proofs.Stream.Poll

/-!
# Polling a line until its input is used up

`Line.receiving` is a fresh line on which some fragments arrive before its transport ends: bytes as
they are cut into reads, and failures of the transport between them. Polled again and again it comes
to a state in which nothing but the end of the stream is given, however its input was cut, and until
then every poll is a passing: `Line.exists_drains`.
-/

namespace MeterBus

/-- A part of the input of a line. -/
inductive Fragment where
  /-- At least one byte. -/
  | bytes (first : UInt8) (others : List UInt8)
  /-- A failure of the transport. -/
  | failure (condition message : String)
  deriving DecidableEq, Repr

namespace Fragment

/-- The chunk as which a fragment arrives. -/
def chunk : Fragment → Chunk
  | bytes first others => .bytes (first :: others)
  | failure condition message => .failure (.transport condition message)

/-- The bytes in some fragments. -/
def contents (fragments : List Fragment) : List UInt8 :=
  fragments.flatMap (·.chunk.content)

/-- The failures among some fragments. -/
def outages (fragments : List Fragment) : List LinkError :=
  fragments.filterMap (·.chunk.outage?)

/-- Fragments are input, and never without content. -/
theorem isInput_chunk (fragment : Fragment) : fragment.chunk.IsInput := by
  cases fragment with
  | bytes first others => exact .bytes _
  | failure condition message => exact .failure condition message

end Fragment

namespace Line

/-- A fresh line that receives some fragments, and then the end of its input. -/
def receiving (now : Nat) (codec : Codec) (fragments : List Fragment) : Line :=
  (fragments.foldl (fun line fragment => line.feed now ⟨0, fragment.chunk⟩) (fresh codec)).close

/-- The answers to so many polls, and the line behind them. -/
def polls (now : Nat) : Nat → Line → List Poll × Line
  | 0, line => ([], line)
  | count + 1, line =>
    let polled := line.poll now
    let others := polls now count polled.2.1
    (polled.1 :: others.1, others.2)

/-- The receiving half of a line. -/
def intake (line : Line) : Intake := ⟨line.reader, line.arrivals⟩

/-- Whether all the input and the end behind it have been used. -/
structure IsDrained (line : Line) : Prop where
  closed : line.closed = true
  arrived : line.arrivals = []
  ended : line.reader.ended = true
  unreadable : line.reader.readable = false
  unerrored : line.reader.errored = false

/-- Whether these are the answers of a line until its input is used up. -/
structure Drains (now : Nat) (line : Line) (answers : List Poll) (final : Line) : Prop where
  drained : final.IsDrained
  /-- Behind these answers, polling goes on with nothing but the end of the stream. -/
  polled : ∀ more, line.polls now (answers.length + more)
    = (answers ++ List.replicate more .ended, final)

variable {now : Nat} {line : Line}

/-- What arrives on a line that receives some fragments. -/
theorem receiving_eq (now : Nat) (codec : Codec) (fragments : List Fragment) :
    receiving now codec fragments =
      { reader := .fresh codec
        arrivals := fragments.map fun fragment => ⟨now, fragment.chunk⟩
        closed := true } := by
  have feeding (earlier : List Arrival) :
      fragments.foldl (fun line fragment => feed now ⟨0, fragment.chunk⟩ line)
          ({ reader := .fresh codec, arrivals := earlier } : Line) =
        { reader := .fresh codec
          arrivals := earlier ++ fragments.map fun fragment => ⟨now, fragment.chunk⟩ } := by
    induction fragments generalizing earlier with
    | nil => simp
    | cons fragment others inductionHypothesis =>
      have arriving : Delivery.arrivals now [⟨0, fragment.chunk⟩] = [⟨now, fragment.chunk⟩] := by
        cases fragment <;> simp [Delivery.arrivals, Fragment.chunk]
      rw [List.foldl_cons, feed, arriving, inductionHypothesis, List.append_assoc, List.map_cons]
      rfl
  rw [receiving, fresh, feeding]
  rfl

/-- The codec of a line that receives some fragments. -/
theorem codec_receiving (now : Nat) (codec : Codec) (fragments : List Fragment) :
    (receiving now codec fragments).intake.reader.codec = codec := by
  rw [receiving_eq]
  rfl

/-- The invariant holds before the first poll. -/
theorem sound_receiving (now : Nat) (codec : Codec) (free : codec.required = 0)
    (fragments : List Fragment) : (receiving now codec fragments).intake.Sound now := by
  rw [receiving_eq]
  exact {
    remembers := Codec.remembers_of_required_eq_zero free _
    resting := fun _ => ⟨_, Frame.read_nil⟩
    emptied := fun _ _ => rfl
    roomy := fun ended => absurd ended Bool.false_ne_true
    arriving := by
      intro arrival among
      obtain ⟨fragment, _, rfl⟩ := List.mem_map.1 among
      exact ⟨Nat.le_refl now, fragment.isInput_chunk⟩
    last := fun ended => absurd ended Bool.false_ne_true }

/-- All the bytes of the fragments are ahead of the first poll. -/
theorem ahead_receiving (now : Nat) (codec : Codec) (fragments : List Fragment) :
    (receiving now codec fragments).intake.ahead = Fragment.contents fragments := by
  rw [receiving_eq]
  simp [intake, Intake.ahead, FrameReader.fresh, Fragment.contents, List.flatMap_map]

/-- All the failures of the fragments are ahead of the first poll. -/
theorem outages_receiving (now : Nat) (codec : Codec) (fragments : List Fragment) :
    (receiving now codec fragments).intake.outages = Fragment.outages fragments := by
  rw [receiving_eq]
  simp only [intake, Intake.outages, Fragment.outages, List.filterMap_map]
  rfl

/-- A line whose input is used up gives the end of the stream and stays as it is. -/
theorem poll_of_isDrained (sound : line.intake.Sound now) (drained : line.IsDrained) :
    line.poll now = (.ended, line, []) := by
  have polled := pollReader_of_exhausted sound
    ⟨drained.ended, drained.unreadable, drained.unerrored⟩
  simp only [poll, drained.closed, polled]
  obtain ⟨reader, arrivals, closed, answers, faults, unsent⟩ := line
  obtain rfl : arrivals = [] := drained.arrived
  obtain rfl : closed = true := drained.closed
  rfl

/-- A line whose input is used up drains without an answer. -/
theorem drains_nil (sound : line.intake.Sound now) (drained : line.IsDrained) :
    line.Drains now [] line where
  drained := drained
  polled := by
    intro more
    rw [List.length_nil, Nat.zero_add, List.nil_append]
    induction more with
    | zero => rfl
    | succ more inductionHypothesis =>
      rw [polls, poll_of_isDrained sound drained]
      simp only [inductionHypothesis, List.replicate_succ]

/-- A line drains if it drains behind its first answer. -/
theorem drains_cons {answers : List Poll} {final : Line}
    (others : (line.poll now).2.1.Drains now answers final) :
    line.Drains now ((line.poll now).1 :: answers) final where
  drained := others.drained
  polled := by
    intro more
    rw [List.length_cons, Nat.add_right_comm, polls]
    simp only [others.polled more, List.cons_append]

/-- A poll of a closed line that can still give something is a passing with one answer. -/
theorem poll_passing (sound : line.intake.Sound now) (closed : line.closed = true)
    (going : ¬ line.intake.Exhausted) :
    Passing now line.intake [(line.poll now).1] (line.poll now).2.1.intake := by
  have passing := pollReader_passing sound going
  simp only [poll, closed]
  exact passing

/-- Every closed line comes to the end of its input. -/
theorem exists_drains (sound : line.intake.Sound now) (closed : line.closed = true) :
    ∃ answers final, line.Drains now answers final ∧
      Passing now line.intake answers final.intake := by
  -- every answer of a line that is not exhausted uses up some of the potential
  induction bound : line.intake.potential using Nat.strongRecOn generalizing line with
  | ind potential inductionHypothesis =>
    by_cases exhausted : line.intake.Exhausted
    · obtain ⟨ended, unreadable, unerrored⟩ := exhausted
      have drained : line.IsDrained := ⟨closed, sound.last ended, ended, unreadable, unerrored⟩
      exact ⟨[], line, drains_nil sound drained, .refl sound⟩
    · have passing := poll_passing sound closed exhausted
      have less : (line.poll now).2.1.intake.potential < potential := by
        have decreasing := passing.potential
        rw [List.length_singleton] at decreasing
        omega
      obtain ⟨answers, final, others, behind⟩ :=
        inductionHypothesis _ less passing.sound closed rfl
      exact ⟨_, final, drains_cons others, passing.trans behind⟩

end Line

end MeterBus
