import Mathlib.Data.Nat.Find
import MeterBus.Proofs.Stream.Strict

/-!
# How long a line is waited for

What a poll gives depends on the time only through what is due. A poll that gives nothing can be made
at a later time instead, and one that gives something gives it at any later time. So it does not
matter to what a line gives first, and when, at which instants it is asked before, as long as these
include the times at which something becomes due: `Gives` asks at every instant, and a wait asks at
those times only.
-/

namespace MeterBus

namespace FrameReader

variable {reader : FrameReader}

/-- What is given without a read is not nothing. -/
theorem settle_ne_pending (reader : FrameReader) : reader.settle.1 ≠ some .pending := by
  unfold settle
  split
  · simp
  · split
    · dsimp only
      split
      · simp
      · simp
      · cases reader.ended <;> simp
    · simp

/-- A reader that has settled on nothing has nothing more to give without a read. -/
theorem rests_of_settle (idle : reader.settle.1 = none) :
    reader.settle.2.1.errored = false ∧ reader.settle.2.1.readable = false := by
  unfold settle at idle ⊢
  split at idle
  · cases idle
  · next unerrored =>
    split at idle
    · next readable =>
      dsimp only at idle
      split at idle
      · cases idle
      · cases idle
      · next nothing => simp [unerrored, readable, nothing]
    · next unreadable => simp [unerrored, unreadable]

/-- A reader that has settled on nothing stays as it is. -/
theorem settle_settle (idle : reader.settle.1 = none) :
    reader.settle.2.1.settle = (none, reader.settle.2.1, []) := by
  obtain ⟨unerrored, unreadable⟩ := rests_of_settle idle
  generalize reader.settle.2.1 = settled at unerrored unreadable ⊢
  simp [settle, unerrored, unreadable]

end FrameReader

namespace Line

variable {line after : Line} {now time finish limit : Nat} {answer : Poll} {closed : Bool}
  {reader : FrameReader} {arrivals : List Arrival}

/-! ## Polls at different times -/

/-- What an arrival that is due adds to a poll that did not end before, at whatever time it is read. -/
theorem pollReader_of_due {settled middle : FrameReader} {events : List Codec.Event}
    {arrival : Arrival} {rest : List Arrival} (settledEq : reader.settle = (none, settled, events))
    (absorbedEq : settled.makeRoom.absorb (arrival.cut settled.makeRoom.storage.free).1
      = (none, middle)) (due : arrival.due ≤ now) :
    pollReader now closed reader (arrival :: rest) =
      let polled := pollReader now closed middle
        ((arrival.cut settled.makeRoom.storage.free).2 ++ rest)
      { polled with events := events ++ polled.events } := by
  rw [pollReader, settledEq]
  simp only [due, if_true]
  rw [absorbedEq]

/-- A poll can be made later instead, if it gives something or nothing becomes due in between. -/
theorem pollReader_later (later : now ≤ time)
    (quiet : (pollReader now closed reader arrivals).poll = .pending →
      ∀ arrival ∈ arrivals, arrival.due ≤ time → arrival.due ≤ now) :
    pollReader time closed reader arrivals = pollReader now closed reader arrivals := by
  fun_induction pollReader now closed reader arrivals with
  | case1 reader arrivals poll settled events settledEq => rw [pollReader, settledEq]
  | case2 reader settled events settledEq closed poll after absorbedEq =>
    rw [pollReader, settledEq]
    simp only [closed, absorbedEq, if_true]
  | case3 reader settled events settledEq closed after absorbedEq last =>
    rw [pollReader, settledEq]
    simp only [closed, absorbedEq, if_true, last]
  | case4 reader settled events settledEq opened =>
    rw [pollReader, settledEq]
    simp only [opened, Bool.false_eq_true, if_false]
  | case5 reader settled events settledEq arrival rest due space poll after absorbedEq =>
    have dueThen : arrival.due ≤ time := due.trans later
    rw [pollReader, settledEq]
    simp only [dueThen, if_true]
    rw [absorbedEq]
  | case6 reader settled events settledEq arrival rest due space after absorbedEq polled
      inductionHypothesis =>
    rw [pollReader_of_due settledEq absorbedEq (due.trans later)]
    dsimp only
    rw [inductionHypothesis]
    intro nothing left among
    rcases List.mem_append.1 among with cut | behind
    · rw [arrival.due_cut _ left cut]
      exact fun _ => due
    · exact quiet nothing left (List.mem_cons_of_mem _ behind)
  | case7 reader settled events settledEq arrival rest early =>
    have earlyThen : ¬ arrival.due ≤ time :=
      fun due => early (quiet rfl arrival (List.mem_cons_self ..) due)
    rw [pollReader, settledEq]
    simp only [earlyThen, if_false]

/-- A poll that gives nothing makes no difference to what a later one gives and leaves. -/
theorem pollReader_again (later : now ≤ time)
    (nothing : (pollReader now closed reader arrivals).poll = .pending) :
    let first := pollReader now closed reader arrivals
    let again := pollReader time closed first.reader first.arrivals
    let whole := pollReader time closed reader arrivals
    again.poll = whole.poll ∧ again.reader = whole.reader ∧ again.arrivals = whole.arrivals := by
  fun_induction pollReader now closed reader arrivals with
  | case1 reader arrivals poll settled events settledEq =>
    have known := reader.settle_ne_pending
    rw [settledEq] at known
    exact absurd (congrArg some nothing) known
  | case2 reader settled events settledEq closed poll after absorbedEq =>
    have known := settled.makeRoom.absorb_ne_pending .ended
    rw [absorbedEq] at known
    exact absurd (congrArg some nothing) known
  | case3 reader settled events settledEq closed after absorbedEq last =>
    have known := after.settle_ne_pending
    simp only [last] at nothing
    cases given : after.settle.1 with
    | none => simp [given] at nothing
    | some poll => simp_all
  | case4 reader settled events settledEq opened =>
    have still := @FrameReader.settle_settle reader
    rw [settledEq] at still
    dsimp only
    rw [pollReader, pollReader, settledEq, still rfl]
    simp [opened]
  | case5 reader settled events settledEq arrival rest due space poll after absorbedEq =>
    have known := settled.makeRoom.absorb_ne_pending (arrival.cut space).1
    rw [absorbedEq] at known
    exact absurd (congrArg some nothing) known
  | case6 reader settled events settledEq arrival rest due space after absorbedEq polled
      inductionHypothesis =>
    rw [pollReader_of_due settledEq absorbedEq (due.trans later)]
    exact inductionHypothesis nothing
  | case7 reader settled events settledEq arrival rest early =>
    have still := @FrameReader.settle_settle reader
    rw [settledEq] at still
    dsimp only
    rw [pollReader, pollReader, settledEq, still rfl]
    dsimp only
    split
    · split <;> exact ⟨rfl, rfl, rfl⟩
    · exact ⟨rfl, rfl, rfl⟩

/-- A poll that gives something gives it at any later time as well. -/
theorem poll_of_given (later : now ≤ time) (given : (line.poll now).1 ≠ .pending) :
    line.poll time = line.poll now := by
  unfold poll
  rw [pollReader_later later fun nothing => absurd nothing given]

/-- A poll that gives nothing makes no difference to what a later one gives and leaves. -/
theorem poll_again (later : now ≤ time) (nothing : (line.poll now).1 = .pending) :
    ((line.poll now).2.1.poll time).1 = (line.poll time).1 ∧
      ((line.poll now).2.1.poll time).2.1 = (line.poll time).2.1 := by
  obtain ⟨given, reader, arrivals⟩ := pollReader_again later nothing
  refine ⟨given, ?_⟩
  simp only [poll] at reader arrivals ⊢
  rw [reader, arrivals]

/-- While nothing becomes due, a poll gives and leaves the same. -/
theorem poll_of_quiet (later : now ≤ time)
    (quiet : ∀ due ∈ line.dueTimes, due ≤ time → due ≤ now) : line.poll time = line.poll now := by
  unfold poll
  rw [pollReader_later later]
  intro _ arrival among
  exact quiet arrival.due (List.mem_map_of_mem among)

/-- A line that begins to give something does so when something becomes due. -/
theorem exists_due_of_given (later : now ≤ time) (given : (line.poll time).1 ≠ .pending) :
    (line.poll now).1 ≠ .pending ∨
      ∃ due ∈ line.dueTimes, now < due ∧ due ≤ time ∧ (line.poll due).1 ≠ .pending := by
  induction time, later using Nat.le_induction with
  | base => exact .inl given
  | succ time later inductionHypothesis =>
    by_cases among : time + 1 ∈ line.dueTimes
    · exact .inr ⟨time + 1, among, Nat.lt_succ_of_le later, Nat.le_refl _, given⟩
    · have quiet : ∀ due ∈ line.dueTimes, due ≤ time + 1 → due ≤ time := by
        intro due amongToo before
        have other : due ≠ time + 1 := fun same => among (same ▸ amongToo)
        omega
      rw [poll_of_quiet (Nat.le_succ time) quiet] at given
      rcases inductionHypothesis given with atOnce | ⟨due, amongToo, after, before, givenThen⟩
      · exact .inl atOnce
      · exact .inr ⟨due, amongToo, after, Nat.le_succ_of_le before, givenThen⟩

/-! ## The first answer -/

/-- A line that is asked at every instant from a time on gives nothing until the finish, when it gives
an answer and is left like this. -/
inductive Gives : Line → Nat → Nat → Poll → Line → Prop where
  | atOnce {line after : Line} {now : Nat} {answer : Poll} (known : answer ≠ .pending)
      (given : (line.poll now).1 = answer) (left : (line.poll now).2.1 = after) :
      Gives line now now answer after
  | later {line after : Line} {now finish : Nat} {answer : Poll}
      (nothing : (line.poll now).1 = .pending)
      (rest : Gives (line.poll now).2.1 (now + 1) finish answer after) :
      Gives line now finish answer after

/-- The finish is the first time at which a single poll gives something, and the answer is what it
gives. -/
theorem gives_iff : line.Gives now finish answer after ↔ now ≤ finish ∧ answer ≠ .pending ∧
    (line.poll finish).1 = answer ∧ (line.poll finish).2.1 = after ∧
    ∀ time, now ≤ time → time < finish → (line.poll time).1 = .pending := by
  constructor
  · intro gives
    induction gives with
    | atOnce known given left =>
      refine ⟨Nat.le_refl _, known, given, left, ?_⟩
      intro time late before
      omega
    | @later line after now finish answer nothing _ inductionHypothesis =>
      obtain ⟨early, known, given, left, silent⟩ := inductionHypothesis
      have again {time : Nat} (late : now ≤ time) := poll_again late nothing
      rw [(again (by omega)).1] at given
      rw [(again (by omega)).2] at left
      refine ⟨by omega, known, given, left, ?_⟩
      intro time late before
      by_cases same : time = now
      · rw [same, nothing]
      · rw [← (again late).1]
        exact silent time (by omega) before
  · rintro ⟨early, known, given, left, silent⟩
    induction early using Nat.decreasingInduction generalizing line with
    | self => exact .atOnce known given left
    | of_succ now early inductionHypothesis =>
      have nothing := silent now (Nat.le_refl _) early
      have again {time : Nat} (late : now ≤ time) := poll_again late nothing
      refine .later nothing (inductionHypothesis ?_ ?_ ?_)
      · rw [(again (by omega)).1, given]
      · rw [(again (by omega)).2, left]
      · intro time late before
        rw [(again (by omega)).1]
        exact silent time (by omega) before

/-- A line that gives nothing at a time has given nothing before. -/
theorem pending_of_later (later : now ≤ time) (nothing : (line.poll time).1 = .pending) :
    (line.poll now).1 = .pending := by
  by_contra given
  rw [poll_of_given later given] at nothing
  exact given nothing

/-- A line that gives nothing at a time gives its first answer later. -/
theorem Gives.lt_of_pending (gives : line.Gives now finish answer after)
    (nothing : (line.poll time).1 = .pending) : time < finish := by
  obtain ⟨_, known, given, _, _⟩ := gives_iff.1 gives
  refine Nat.lt_of_not_le fun early => known ?_
  rw [← given]
  exact pending_of_later early nothing

/-- A line from which nothing comes up to a limit gives nothing at the limit. -/
theorem pending_of_silent (later : now ≤ limit)
    (silent : ∀ finish answer after, line.Gives now finish answer after → limit < finish) :
    (line.poll limit).1 = .pending := by
  by_contra given
  have some : ∃ time, now ≤ time ∧ (line.poll time).1 ≠ .pending := ⟨limit, later, given⟩
  obtain ⟨early, givenFirst⟩ := Nat.find_spec some
  have gives : line.Gives now (Nat.find some) (line.poll (Nat.find some)).1
      (line.poll (Nat.find some)).2.1 := by
    refine gives_iff.2 ⟨early, givenFirst, rfl, rfl, ?_⟩
    intro time late before
    by_contra givenBefore
    exact Nat.find_min some before ⟨late, givenBefore⟩
  exact absurd (silent _ _ _ gives) (Nat.not_lt.2 (Nat.find_min' some ⟨later, given⟩))

/-- A poll that gives nothing leaves to those who ask later what the line would have given anyway. -/
theorem gives_again (later : now ≤ time) (nothing : (line.poll time).1 = .pending) :
    (line.poll time).2.1.Gives time finish answer after ↔ line.Gives now finish answer after := by
  have again {instant : Nat} (late : time ≤ instant) := poll_again late nothing
  constructor
  · intro gives
    obtain ⟨early, known, given, left, silent⟩ := gives_iff.1 gives
    rw [(again early).1] at given
    rw [(again early).2] at left
    refine gives_iff.2 ⟨later.trans early, known, given, left, ?_⟩
    intro instant _ before
    rcases Nat.le_total instant time with soon | late
    · exact pending_of_later soon nothing
    · rw [← (again late).1]
      exact silent instant late before
  · intro gives
    have early := (gives.lt_of_pending nothing).le
    obtain ⟨_, known, given, left, silent⟩ := gives_iff.1 gives
    refine gives_iff.2 ⟨early, known, ?_, ?_, ?_⟩
    · rw [(again early).1, given]
    · rw [(again early).2, left]
    · intro instant late before
      rw [(again late).1]
      exact silent instant (later.trans late) before

/-! ## Waiting -/

/-- The times that are inserted into, and the one that is inserted. -/
theorem mem_insertTime {first : Nat} {times : List Nat} :
    time ∈ insertTime first times ↔ time = first ∨ time ∈ times := by
  induction times with
  | nil => simp [insertTime]
  | cons next rest inductionHypothesis =>
    rw [insertTime]
    split
    · simp
    · simp only [List.mem_cons, inductionHypothesis]
      exact or_left_comm

/-- Insertion keeps a list of times ascending. -/
theorem pairwise_insertTime (time : Nat) {times : List Nat} (ascending : times.Pairwise (· ≤ ·)) :
    (insertTime time times).Pairwise (· ≤ ·) := by
  induction ascending with
  | nil => simp [insertTime]
  | @cons next rest least ascending inductionHypothesis =>
    rw [insertTime]
    split
    · next before =>
      refine .cons ?_ (.cons least ascending)
      intro other among
      rcases List.mem_cons.1 among with rfl | behind
      · exact before
      · exact before.trans (least other behind)
    · next behind =>
      refine .cons ?_ inductionHypothesis
      intro other among
      rcases mem_insertTime.1 among with rfl | amongRest
      · omega
      · exact least other amongRest

/-- The later times at which a line is asked are those up to the limit. -/
theorem mem_timesWithin {times : List Nat} :
    time ∈ timesWithin now limit times ↔ time ∈ times ∧ now < time ∧ time ≤ limit := by
  have inserted (list : List Nat) : time ∈ list.foldr insertTime [] ↔ time ∈ list := by
    induction list with
    | nil => rfl
    | cons first rest inductionHypothesis =>
      rw [List.foldr_cons, mem_insertTime, inductionHypothesis, List.mem_cons]
  rw [timesWithin, inserted]
  simp

/-- A line is asked at one time after the other. -/
theorem pairwise_timesWithin (now limit : Nat) (times : List Nat) :
    (timesWithin now limit times).Pairwise (· ≤ ·) := by
  rw [timesWithin]
  induction times.filter fun time => now < time && time ≤ limit with
  | nil => exact .nil
  | cons first rest inductionHypothesis => exact pairwise_insertTime first inductionHypothesis

/-- What asking a line at some times comes to: the first of them at which a single poll gives something,
or the last of them if there is none. -/
structure Asks (line : Line) (times : List Nat) (awaited : Awaited) : Prop where
  asked : awaited.time ∈ times
  given : (line.poll awaited.time).1 = awaited.poll
  left : (line.poll awaited.time).2.1 = awaited.line
  silent : ∀ time ∈ times, time < awaited.time → (line.poll time).1 = .pending
  last : awaited.poll = .pending → ∀ time ∈ times, time ≤ awaited.time

/-- Waiting asks at one time after the other until something is given. -/
theorem awaitAt_asks {times : List Nat} (ascending : (now :: times).Pairwise (· ≤ ·)) :
    Asks line (now :: times) (awaitAt now line times) := by
  induction times generalizing now line with
  | nil =>
    unfold awaitAt
    split
    · next left events polled =>
      constructor <;> simp [polled]
    · next given left events known polled =>
      constructor <;> simp [polled]
  | cons next rest inductionHypothesis =>
    obtain ⟨least, ascendingThen⟩ := List.pairwise_cons.1 ascending
    unfold awaitAt
    split
    · next middle events polled =>
      have nothing : (line.poll now).1 = .pending := by rw [polled]
      have again {time : Nat} (among : time ∈ next :: rest) := poll_again (least time among) nothing
      rw [polled] at again
      have behind : Asks middle (next :: rest) (awaitAt next middle rest) :=
        inductionHypothesis ascendingThen
      obtain ⟨asked, given, left, silent, last⟩ := behind
      constructor
      · exact List.mem_cons_of_mem _ asked
      · rw [← (again asked).1]
        exact given
      · rw [← (again asked).2]
        exact left
      · intro time among before
        rcases List.mem_cons.1 among with rfl | behind
        · exact nothing
        · rw [← (again behind).1]
          exact silent time behind before
      · intro vain time among
        rcases List.mem_cons.1 among with rfl | behind
        · exact least _ asked
        · exact last vain time behind
    · next given left events known polled =>
      constructor
      · exact List.mem_cons_self ..
      · rw [polled]
      · rw [polled]
      · intro time among before
        rcases List.mem_cons.1 among with rfl | behind
        · exact absurd before (Nat.lt_irrefl _)
        · exact absurd before (Nat.not_lt.2 (least time behind))
      · exact fun vain => absurd vain known

/-- A wait asks at the start, and at all later times up to the limit at which something becomes due. -/
theorem await_asks (now limit : Nat) (line : Line) :
    Asks line (now :: timesWithin now limit line.dueTimes) (line.await now limit) := by
  apply awaitAt_asks
  refine .cons ?_ (pairwise_timesWithin ..)
  intro time among
  exact (mem_timesWithin.1 among).2.1.le

/-- A line is asked when it gives something first, unless that is behind the limit. -/
theorem Gives.asked (gives : line.Gives now finish answer after) (inTime : finish ≤ limit) :
    finish ∈ now :: timesWithin now limit line.dueTimes := by
  obtain ⟨early, known, given, _, silent⟩ := gives_iff.1 gives
  have answered : (line.poll finish).1 ≠ .pending := given.trans_ne known
  rcases exists_due_of_given early answered with atOnce | ⟨due, among, behind, before, givenThen⟩
  · have same : now = finish := by
      by_contra other
      exact atOnce (silent now (Nat.le_refl _) (by omega))
    exact same ▸ List.mem_cons_self ..
  · have same : due = finish := by
      by_contra other
      exact givenThen (silent due behind.le (by omega))
    rw [same] at among behind
    exact List.mem_cons_of_mem _ (mem_timesWithin.2 ⟨among, behind, inTime⟩)

/-- A wait gives what a line gives first, and when it does, unless that is behind the limit. -/
theorem Gives.await (gives : line.Gives now finish answer after) (inTime : finish ≤ limit) :
    (line.await now limit).poll = answer ∧ (line.await now limit).time = finish ∧
      (line.await now limit).line = after := by
  have onAgenda := gives.asked inTime
  obtain ⟨early, known, given, left, silent⟩ := gives_iff.1 gives
  obtain ⟨asked, givenThen, leftThen, silentThen, last⟩ := await_asks now limit line
  have notBefore : ¬ (line.await now limit).time < finish := by
    intro before
    have late : now ≤ (line.await now limit).time := by
      rcases List.mem_cons.1 asked with same | among
      · exact same.ge
      · exact (mem_timesWithin.1 among).2.1.le
    rw [silent _ late before] at givenThen
    exact absurd (last givenThen.symm finish onAgenda) (Nat.not_le.2 before)
  have notBehind : ¬ finish < (line.await now limit).time := by
    intro before
    rw [silentThen finish onAgenda before] at given
    exact known given.symm
  have time : (line.await now limit).time = finish := by omega
  rw [time] at givenThen leftThen
  exact ⟨givenThen.symm.trans given, time, leftThen.symm.trans left⟩

/-- A wait for a line that gives nothing up to the limit is in vain, and leaves the line like a poll at
the limit. -/
theorem await_of_pending (later : now ≤ limit) (nothing : (line.poll limit).1 = .pending) :
    (line.await now limit).poll = .pending ∧
      (line.await now limit).line = (line.poll limit).2.1 := by
  obtain ⟨asked, given, left, silent, last⟩ := await_asks now limit line
  have before : (line.await now limit).time ≤ limit := by
    rcases List.mem_cons.1 asked with same | among
    · exact same.trans_le later
    · exact (mem_timesWithin.1 among).2.2
  have vain : (line.await now limit).poll = .pending := by
    rw [← given]
    exact pending_of_later before nothing
  refine ⟨vain, ?_⟩
  rw [← left, poll_of_quiet before]
  -- the last time of asking is behind all that becomes due up to the limit
  intro due among inTime
  rcases Nat.lt_or_ge now due with behind | early
  · exact last vain due (List.mem_cons_of_mem _ (mem_timesWithin.2 ⟨among, behind, inTime⟩))
  · exact early.trans (last vain now (List.mem_cons_self ..))

end Line

end MeterBus
