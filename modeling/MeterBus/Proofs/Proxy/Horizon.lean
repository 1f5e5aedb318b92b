import MeterBus.Proofs.Proxy.Cancellation
import MeterBus.Proofs.Proxy.Overlooked
import MeterBus.Proofs.Stream.Prospect

/-!
# How far a step looks ahead

When all lines are closed, there is a time by which everything on its way has come, and by which a step has
found a frame, a failure, or the end of all ports. So a step is not given up by a caller that waits for
longer than this: `step_unabandoned` says so. Behind a step that comes to its end this time is later by the
longest delay of an answer and the time for one at most, which is `within_step`.
-/

namespace MeterBus.Multiplexer

variable {start mux after : Multiplexer} {port origin : Port} {frame request : Frame}
  {deadline now instant limit timeout longest bound : Nat}

/-! ## The wait for a frame -/

/-- Looking for a frame on some ports is not given up. -/
theorem takeFirst?_unabandoned (ports : List Port) (mux : Multiplexer) :
    outcomeOf (takeFirst? ports mux) ≠ .error .abandoned := by
  obtain ⟨_, _, search, _⟩ := (takeFirst?_surveys ports mux).follows
  intro abandoned
  rw [abandoned] at search
  cases search

/-- Where some port is still listened to and all are silent, something is on its way. -/
theorem exists_due_of_silent (closed : ∀ port, (start.lines.get port).closed = true)
    (silent : ∀ port ∈ precedence, Silent start port mux) (listening : mux.anyListening = true) :
    ∃ port, ∃ due ∈ (start.lines.get port).dueTimes, mux.now < due := by
  obtain ⟨port, attended⟩ := anyListening_iff.1 listening
  have among : port ∈ precedence := by cases port <;> decide
  rcases silent port among with deaf | nothing
  · rw [attended] at deaf
    cases deaf
  · exact ⟨port, Line.exists_due_of_pending (closed port) nothing⟩

/-- Looking at the ports at an instant is not given up, if it is not where it goes on behind that. -/
theorem takeAt_cons_unabandoned {later : List Nat}
    (goesOn : ∀ after, (mux.atTime instant).cancelled = false →
      takeFirst? precedence (mux.atTime instant) = .ok none after → after.anyListening = true →
        outcomeOf (takeAt deadline later after) ≠ .error .abandoned) :
    outcomeOf (takeAt deadline (instant :: later) mux) ≠ .error .abandoned := by
  cases cancelled : (mux.atTime instant).cancelled with
  | true =>
    rw [takeAt_of_cancelled cancelled]
    simp [outcomeOf]
  | false =>
    rw [takeAt_of_going cancelled]
    have unabandoned := takeFirst?_unabandoned precedence (mux.atTime instant)
    cases result : takeFirst? precedence (mux.atTime instant) with
    | error halt after =>
      rw [result] at unabandoned
      exact unabandoned
    | ok taken after =>
      cases taken with
      | some taken => simp [outcomeOf]
      | none =>
        dsimp only
        split
        · next listening => exact goesOn after cancelled result listening
        · simp [outcomeOf]

/-- It is not given up either, if it is not where all ports have been silent at the instant. -/
theorem takeAt_unabandoned_of_later {later : List Nat} (overlooked : Overlooked start now mux)
    (ahead : now ≤ instant)
    (goesOn : ∀ after, Overlooked start instant after → (∀ port ∈ precedence, Silent start port after) →
      after.anyListening = true → outcomeOf (takeAt deadline later after) ≠ .error .abandoned) :
    outcomeOf (takeAt deadline (instant :: later) mux) ≠ .error .abandoned := by
  apply takeAt_cons_unabandoned
  intro after _ nothing listening
  have advanced : Overlooked start instant (mux.atTime instant) :=
    ⟨rfl, fun port listening => (overlooked.resumes port listening).later ahead⟩
  have found := overlooked_takeFirst? start precedence _ advanced
  rw [nothing] at found
  exact goesOn after found.1 found.2 listening

/-- If all that is on its way on closed lines comes at some later instants, looking at the ports at these
is not in vain. -/
theorem takeAt_unabandoned {later : List Nat} (closed : ∀ port, (start.lines.get port).closed = true)
    (foreseen : ∀ port, ∀ due ∈ (start.lines.get port).dueTimes, due ≤ instant ∨ due ∈ later)
    (ascending : (now :: instant :: later).Pairwise (· ≤ ·)) (overlooked : Overlooked start now mux) :
    outcomeOf (takeAt deadline (instant :: later) mux) ≠ .error .abandoned := by
  induction later generalizing now instant mux with
  | nil =>
    obtain ⟨least, _⟩ := List.pairwise_cons.1 ascending
    apply takeAt_unabandoned_of_later overlooked (least instant (List.mem_cons_self ..))
    intro after overlookedThen silent listening
    obtain ⟨port, due, among, ahead⟩ := exists_due_of_silent closed silent listening
    rw [overlookedThen.time] at ahead
    rcases foreseen port due among with past | here
    · omega
    · cases here
  | cons next rest inductionHypothesis =>
    obtain ⟨least, ascendingThen⟩ := List.pairwise_cons.1 ascending
    apply takeAt_unabandoned_of_later overlooked (least instant (List.mem_cons_self ..))
    intro after overlookedThen _ _
    apply inductionHypothesis _ ascendingThen overlookedThen
    intro port due among
    have later := (List.pairwise_cons.1 ascendingThen).1 next (List.mem_cons_self ..)
    rcases foreseen port due among with past | here
    · exact .inl (past.trans later)
    · rcases List.mem_cons.1 here with rfl | behind
      · exact .inl le_rfl
      · exact .inr behind

/-- The wait for a frame is not given up if looking at the ports is not in vain where one is listened to. -/
theorem select_unabandoned_of_takeAt
    (looking : outcomeOf (takeAt deadline (mux.now :: mux.agenda deadline) (mux.atTime mux.now))
      ≠ .error .abandoned) : outcomeOf (select deadline mux) ≠ .error .abandoned := by
  cases listening : mux.anyListening with
  | false =>
    rw [select_of_deaf deadline listening]
    simp [outcomeOf]
  | true =>
    rw [select_of_listening deadline listening]
    exact looking

/-- The wait for a frame on closed lines is not given up before all that is on its way has come. -/
theorem select_unabandoned (closed : ∀ port, (mux.lines.get port).closed = true)
    (inTime : ∀ port, ∀ due ∈ (mux.lines.get port).dueTimes, due ≤ deadline) :
    outcomeOf (select deadline mux) ≠ .error .abandoned := by
  apply select_unabandoned_of_takeAt
  apply takeAt_unabandoned closed _ (pairwise_agenda deadline mux) (overlooked_atTime mux)
  intro port due among
  rcases Nat.lt_or_ge mux.now due with ahead | past
  · exact .inr (mem_agenda.2 ⟨.inl ⟨port, among⟩, ahead, inTime port due among⟩)
  · exact .inl past

/-! ## What is put off -/

/-- Whether every line ends by some time, as does the wait for a cancellation, given the time for an answer
and the longest delay of one. -/
structure EndsBy (timeout longest bound : Nat) (mux : Multiplexer) : Prop where
  timeout : mux.routing.responseTimeout = timeout
  lines : ∀ port, (mux.lines.get port).EndsBy longest bound
  alarm : ∀ time ∈ mux.cancelAt, time ≤ bound

/-- Whether it is also so early that an answer that is called forth now comes by that time. -/
structure Within (timeout longest bound : Nat) (mux : Multiplexer) : Prop
    extends EndsBy timeout longest bound mux where
  early : mux.now + longest ≤ bound

/-- What ends by some time does so by a later one. -/
theorem EndsBy.mono {later : Nat} (ends : EndsBy timeout longest bound mux) (less : bound ≤ later) :
    EndsBy timeout longest later mux where
  timeout := ends.timeout
  lines := fun port => (ends.lines port).mono less
  alarm := fun time among => (ends.alarm time among).trans less

/-- A line is replaced by one that ends by that time as well. -/
theorem EndsBy.setLine {line : Line} (ends : EndsBy timeout longest bound mux)
    (replaced : line.EndsBy longest bound) : EndsBy timeout longest bound (mux.setLine port line) where
  timeout := ends.timeout
  lines := by
    intro other
    change ((mux.lines.set port line).get other).EndsBy longest bound
    by_cases same : other = port
    · rw [same, PerPort.get_set_self]
      exact replaced
    · rw [PerPort.get_set_of_ne _ _ same]
      exact ends.lines other
  alarm := ends.alarm

/-- The passage of time puts nothing off. -/
theorem EndsBy.atTime (ends : EndsBy timeout longest bound mux) (time : Nat) :
    EndsBy timeout longest bound (mux.atTime time) where
  timeout := ends.timeout
  lines := ends.lines
  alarm := by
    intro alarm among
    change alarm ∈ (if mux.cancelAt.any (· ≤ time) then none else mux.cancelAt) at among
    split at among
    · cases among
    · exact ends.alarm alarm among

/-- Taking something off a line puts nothing off. -/
theorem endsBy_upkept (timeout longest bound : Nat) :
    Upkept (fun _ => True) (EndsBy timeout longest bound) where
  reports := fun _ _ => trivial
  taking := fun port _ _ draws ends => ends.setLine ((ends.lines port).draws draws)
  telling := fun _ _ _ ends => ⟨ends.timeout, ends.lines, ends.alarm⟩
  deafening := fun _ _ ends => ⟨ends.timeout, ends.lines, ends.alarm⟩

/-- Taking something off a line takes no time. -/
theorem within_maintained (timeout longest bound : Nat) :
    Maintained (fun _ => True) (Within timeout longest bound) where
  reports := fun _ _ => trivial
  taking := fun port _ _ draws within =>
    ⟨within.setLine ((within.lines port).draws draws), within.early⟩
  telling := fun _ _ _ within => ⟨⟨within.timeout, within.lines, within.alarm⟩, within.early⟩

/-- Looking for a frame takes no time. -/
theorem now_upkept (bound : Nat) : Upkept (fun _ => True) (fun mux => mux.now ≤ bound) where
  reports := fun _ _ => trivial
  taking := fun _ _ _ _ early => early
  telling := fun _ _ _ early => early
  deafening := fun _ _ early => early

/-- A frame is found at one of the instants. -/
theorem now_takeAt (deadline : Nat) {instants : List Nat}
    (early : ∀ instant ∈ instants, instant ≤ bound) :
    Ensures (fun _ => True) (takeAt deadline instants) (fun _ mux => mux.now ≤ bound)
      (fun _ => True) := by
  induction instants with
  | nil => exact fun _ _ => trivial
  | cons instant later inductionHypothesis =>
    have advancing : Ensures (fun _ => True) (advanceTo instant) (fun _ mux => mux.now ≤ bound)
        (fun _ => True) := fun _ _ => early instant (List.mem_cons_self ..)
    rw [takeAt]
    apply advancing.bind
    intro _
    apply Ensures.get_bind
    intro state
    split
    · have telling : Keeps (fun mux => mux.now ≤ bound) (report .cancelled) :=
        (now_upkept bound).report trivial
      apply ((telling.halting fun _ _ => trivial).of_stronger fun _ here => here.2).bind
      exact fun _ => .pure _ fun _ here => here
    · have looking := (now_upkept bound).takeFirst? tellsTakings_true precedence
      apply ((looking.halting fun _ _ => trivial).of_stronger fun _ here => here.2).bind
      intro found
      cases found with
      | some taken => exact .pure _ fun _ here => here
      | none =>
        apply Ensures.get_bind
        intro state
        have further : ∀ instant ∈ later, instant ≤ bound :=
          fun instant among => early instant (List.mem_cons_of_mem _ among)
        split
        · exact (inductionHypothesis further).of_stronger fun _ _ => trivial
        · exact .halt _ fun _ _ => trivial

/-- Behind the wait for a frame, that time is later by the longest delay of an answer at most. -/
theorem within_select (timeout longest bound deadline : Nat) :
    Ensures (Within timeout longest bound) (select deadline)
      (fun _ => Within timeout longest (bound + longest)) (fun _ => True) := by
  intro mux within
  have ending := (endsBy_upkept timeout longest bound).select tellsTakings_true
    (fun time _ ends => ends.atTime time) trivial deadline mux within.toEndsBy
  have early : mux.now ≤ bound := (Nat.le_add_right ..).trans within.early
  cases listening : mux.anyListening with
  | false =>
    rw [select_of_deaf deadline listening]
    trivial
  | true =>
    rw [select_of_listening deadline listening] at ending ⊢
    have instants : ∀ instant ∈ mux.now :: mux.agenda deadline, instant ≤ bound := by
      intro instant among
      rcases List.mem_cons.1 among with rfl | later
      · exact early
      · rcases (mem_agenda.1 later).1 with ⟨port, due⟩ | alarm
        · exact (within.lines port).due instant due
        · exact within.alarm instant alarm
    have timely := now_takeAt deadline instants (mux.atTime mux.now) trivial
    generalize takeAt deadline _ _ = result at ending timely ⊢
    cases result with
    | error halt after => trivial
    | ok found after => exact ⟨ending.mono (Nat.le_add_right ..), Nat.add_le_add_right timely longest⟩

/-- What handing over a frame calls forth comes by that time. -/
theorem within_send (timeout longest bound : Nat) (port : Port) (frame : Frame) :
    Keeps (Within timeout longest bound) (send port frame) := by
  apply (within_maintained timeout longest bound).send
  · intro mux within
    have calls := Line.send_calls mux.now frame (mux.lines.get port)
    exact ⟨within.setLine ((within.lines port).calls calls within.early), within.early⟩
  · exact fun _ => trivial
  · exact fun _ => trivial

/-- Behind the wait for an answer, that time is later by the time for one at most. -/
theorem Within.awaiting (within : Within timeout longest bound mux) (soon : limit ≤ mux.now + timeout) :
    Within timeout longest (bound + timeout) (mux.awaiting limit) := by
  obtain ⟨asked, _⟩ := Line.await_asks mux.now limit mux.lines.slave
  have early := within.early
  have timely : (if (mux.awaited limit).poll = .pending then limit else (mux.awaited limit).time)
      ≤ mux.now + timeout := by
    split
    · exact soon
    · rcases List.mem_cons.1 asked with same | among
      · rw [show (mux.awaited limit).time = mux.now from same]
        exact Nat.le_add_right ..
      · exact (Line.mem_timesWithin.1 among).2.2.trans soon
  have draws : (mux.lines.get .slave).Draws (mux.awaited limit).line := Line.awaitAt_draws ..
  have waited : EndsBy timeout longest bound (mux.setLine .slave (mux.awaited limit).line) :=
    within.setLine ((within.lines .slave).draws draws)
  apply (within_maintained timeout longest (bound + timeout)).noteCodec
  generalize (if (mux.awaited limit).poll = .pending then limit else (mux.awaited limit).time) = time
    at timely ⊢
  refine ⟨(waited.atTime time).mono (Nat.le_add_right ..), ?_⟩
  change time + longest ≤ bound + timeout
  omega

/-- Relaying an answer takes no time. -/
theorem within_resolving (asked : Multiplexer) (answer : Poll) :
    Keeps (Within timeout longest bound) (resolving deadline origin asked answer) := by
  have maintained := within_maintained timeout longest bound
  cases answer with
  | pending =>
    unfold resolving
    dsimp only
    split
    · exact maintained.report trivial
    · exact .halt _ fun _ here => here
  | ended => exact .halt _ fun _ here => here
  | failure cause => exact .halt _ fun _ here => here
  | frame reply =>
    apply (maintained.report trivial).bind
    intro _
    apply (maintained.report trivial).bind
    intro _
    apply (within_send timeout longest bound origin reply).bind
    exact fun _ => maintained.report trivial

/-- Behind an exchange, that time is later by the time for an answer at most. -/
theorem within_exchange (timeout longest bound deadline : Nat) (origin : Port) (request : Frame) :
    Ensures (Within timeout longest bound) (exchange deadline origin request)
      (fun _ => Within timeout longest (bound + timeout)) (fun _ => True) := by
  have maintained := within_maintained timeout longest bound
  have short : ∀ mux, Within timeout longest bound mux → True := fun _ _ => trivial
  rw [exchange_eq]
  apply ((maintained.discardStale tellsTakings_true).halting short).bind
  intro _
  apply ((maintained.report trivial).halting short).bind
  intro _
  apply ((within_send timeout longest bound .slave request).halting short).bind
  intro _ asked within
  have soon : min (asked.now + asked.routing.responseTimeout) deadline ≤ asked.now + timeout := by
    rw [within.timeout]
    exact min_le_left ..
  rw [answering_eq]
  exact (within_resolving asked _).halting (fun _ _ => trivial) _ (within.awaiting soon)

/-- Behind a frame that is dealt with, that time is later by the time for an answer at most. -/
theorem within_carryOut (timeout longest bound deadline : Nat) (port : Port) (frame : Frame)
    (decision : Decision) :
    Ensures (Within timeout longest bound) (carryOut deadline port frame decision)
      (fun _ => Within timeout longest (bound + timeout)) (fun _ => True) := by
  have maintained := within_maintained timeout longest bound
  have later {proceeding : Proceeding Unit} (keeps : Keeps (Within timeout longest bound) proceeding) :
      Ensures (Within timeout longest bound) proceeding
        (fun _ => Within timeout longest (bound + timeout)) (fun _ => True) :=
    keeps.mono (fun _ here => here)
      (fun _ _ within => ⟨within.mono (Nat.le_add_right ..), within.early.trans (Nat.le_add_right ..)⟩)
      (fun _ _ => trivial)
  have acknowledging : Keeps (Within timeout longest bound) (acknowledge port) := by
    apply (maintained.report trivial).bind
    intro _
    apply (within_send timeout longest bound port .single).bind
    exact fun _ => maintained.report trivial
  cases decision with
  | acknowledge => exact later acknowledging
  | acknowledgeSelection => exact later ((maintained.report trivial).bind fun _ => acknowledging)
  | forward request => exact within_exchange timeout longest bound deadline port request
  | ignore => exact later (maintained.report trivial)
  | reject => exact later (maintained.report trivial)

/-- Behind a step that comes to its end, that time is later by the longest delay of an answer and the time
for one at most. -/
theorem within_step (timeout longest bound deadline : Nat) :
    Ensures (Within timeout longest bound) (step deadline)
      (fun _ => Within timeout longest (bound + longest + timeout)) (fun _ => True) := by
  rw [step_eq]
  apply (within_select timeout longest bound deadline).bind
  intro found
  cases found with
  | none =>
    exact .pure _ fun _ within =>
      ⟨within.mono (Nat.le_add_right ..), within.early.trans (Nat.le_add_right ..)⟩
  | some taken =>
    intro mux within
    dsimp only
    rw [handle_eq]
    exact within_carryOut timeout longest (bound + longest) deadline taken.1 taken.2 _ mux within

/-- A frame is not given up once it is dealt with, if there is the time for an answer. -/
theorem Treatment.unabandoned {decision : Decision} {contacts : Contacts} {tale : List Activity}
    {outcome : Except Halt Unit}
    (treatment : Treatment timeout deadline now port frame decision contacts tale outcome)
    (inTime : now + timeout ≤ deadline) : outcome ≠ .error .abandoned := by
  cases treatment with
  | acknowledged handover => cases handover <;> simp
  | selected handover => cases handover <;> simp
  | forwarded exchange =>
    intro abandoned
    have late := exchange.concludes.2 abandoned
    omega
  | ignored => simp
  | rejected => simp

/-- A step is not given up if the wait for a frame is not, and there is the time for an answer behind it. -/
theorem step_unabandoned_of_select (waited : outcomeOf (select deadline mux) ≠ .error .abandoned)
    (inTime : ∀ taken, outcomeOf (select deadline mux) = .ok (some taken) →
      (leftBy (select deadline mux)).now + mux.routing.responseTimeout ≤ deadline) :
    outcomeOf (step deadline mux) ≠ .error .abandoned := by
  cases step_onward deadline mux with
  | halted selected whole =>
    rw [selected] at waited
    rw [whole]
    simpa [outcomeOf] using waited
  | idle selected whole =>
    rw [whole]
    simp [outcomeOf]
  | handled selected treatment passage => exact treatment.unabandoned (inTime _ selected)

/-- A step on closed lines that begins early enough is not given up. -/
theorem step_unabandoned (within : Within timeout longest bound mux)
    (inTime : bound + timeout ≤ deadline) : outcomeOf (step deadline mux) ≠ .error .abandoned := by
  apply step_unabandoned_of_select
  · apply select_unabandoned fun port => (within.lines port).closed
    intro port due among
    have early := (within.lines port).due due among
    omega
  · intro taken selected
    have chosen : Within timeout longest (bound + longest) (leftBy (select deadline mux)) :=
      (within_select timeout longest bound deadline).of_outcome within selected
    have early := chosen.early
    rw [within.timeout]
    omega

end MeterBus.Multiplexer
