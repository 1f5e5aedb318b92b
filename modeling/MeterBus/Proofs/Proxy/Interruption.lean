import MeterBus.Proofs.Proxy.Horizon
import MeterBus.Proofs.Proxy.Requests

/-!
# Interrupted work

Work that is going to be cancelled at some time ends soon behind that time, whatever its lines do: at
that time no frame is waited for any more, and an exchange that is under way is over when the slave has had
its time to answer. So a caller that waits for so long never gives up a run, which is
`run_unabandoned`.
-/

namespace MeterBus.Multiplexer

variable {mux after : Multiplexer} {deadline timeout alarm time : Nat}

/-- Whether the work has been cancelled, or is going to be at some time, given the time for an answer. -/
structure Alarmed (timeout alarm : Nat) (mux : Multiplexer) : Prop where
  timeout : mux.routing.responseTimeout = timeout
  rings : mux.cancelled = true ∨ mux.cancelAt = some alarm

/-- Time passes, and the alarm may go off. -/
theorem Alarmed.atTime (alarmed : Alarmed timeout alarm mux) (time : Nat) :
    Alarmed timeout alarm (mux.atTime time) where
  timeout := alarmed.timeout
  rings := by
    rcases alarmed.rings with cancelled | awaited
    · simp [Multiplexer.atTime, cancelled]
    · by_cases due : alarm ≤ time
      · simp [Multiplexer.atTime, awaited, due]
      · simp [Multiplexer.atTime, awaited, due]

/-- Where the work goes on, the alarm has not gone off. -/
theorem Alarmed.lt_of_going (alarmed : Alarmed timeout alarm mux)
    (going : mux.isCancelledAt time = false) : time < alarm := by
  obtain ⟨uncancelled, undue⟩ := Bool.or_eq_false_iff.1 going
  rcases alarmed.rings with cancelled | awaited
  · rw [cancelled] at uncancelled
    cases uncancelled
  · simpa [awaited] using undue

/-- What is done with frames leaves the alarm alone. -/
theorem alarmed_upkept (timeout alarm : Nat) : Upkept (fun _ => True) (Alarmed timeout alarm) where
  reports := fun _ _ => trivial
  taking := fun _ _ _ _ alarmed => ⟨alarmed.timeout, alarmed.rings⟩
  telling := fun _ _ _ alarmed => ⟨alarmed.timeout, alarmed.rings⟩
  deafening := fun _ _ alarmed => ⟨alarmed.timeout, alarmed.rings⟩

/-- Every step leaves the alarm alone. -/
theorem alarmed_steady (timeout alarm : Nat) : Steady (Alarmed timeout alarm) where
  maintained := ⟨fun _ _ => rfl, (alarmed_upkept timeout alarm).taking,
    fun _ _ _ alarmed => ⟨alarmed.timeout, alarmed.rings⟩⟩
  passing := fun time _ alarmed => alarmed.atTime time
  sending := fun _ _ _ => (alarmed_upkept timeout alarm).send
    (fun _ alarmed => ⟨alarmed.timeout, alarmed.rings⟩) (fun _ => trivial) fun _ => trivial
  deafening := (alarmed_upkept timeout alarm).deafening

/-- Looking at the ports is not given up if that goes on until the alarm. -/
theorem takeAt_unabandoned_of_alarmed {instants : List Nat} (alarmed : Alarmed timeout alarm mux)
    (reaches : ∃ instant ∈ instants, alarm ≤ instant) :
    outcomeOf (takeAt deadline instants mux) ≠ .error .abandoned := by
  induction instants generalizing mux with
  | nil => simp at reaches
  | cons instant later inductionHypothesis =>
    apply takeAt_cons_unabandoned
    intro after going nothing _
    have early : instant < alarm := alarmed.lt_of_going going
    apply inductionHypothesis
    · have kept := (alarmed_upkept timeout alarm).takeFirst? tellsTakings_true precedence
      have behind := kept _ (alarmed.atTime instant)
      rwa [nothing] at behind
    · obtain ⟨reached, among, late⟩ := reaches
      rcases List.mem_cons.1 among with rfl | among
      · omega
      · exact ⟨reached, among, late⟩

/-- The wait for a frame is not given up before the alarm. -/
theorem select_unabandoned_of_alarmed (alarmed : Alarmed timeout alarm mux)
    (inTime : alarm ≤ deadline) : outcomeOf (select deadline mux) ≠ .error .abandoned := by
  apply select_unabandoned_of_takeAt
  rcases alarmed.rings with cancelled | awaited
  · rw [takeAt_of_cancelled (by simp [Multiplexer.atTime, cancelled])]
    simp [outcomeOf]
  · apply takeAt_unabandoned_of_alarmed (alarmed.atTime mux.now)
    rcases Nat.lt_or_ge mux.now alarm with ahead | past
    · have among : alarm ∈ mux.agenda deadline := mem_agenda.2 ⟨.inr awaited, ahead, inTime⟩
      exact ⟨alarm, List.mem_cons_of_mem _ among, le_rfl⟩
    · exact ⟨mux.now, List.mem_cons_self .., past⟩

/-- A step is not given up if there is the time for an answer behind the alarm. -/
theorem step_unabandoned_of_alarmed (alarmed : Alarmed timeout alarm mux)
    (inTime : alarm + timeout ≤ deadline) : outcomeOf (step deadline mux) ≠ .error .abandoned := by
  apply step_unabandoned_of_select
  · exact select_unabandoned_of_alarmed alarmed ((Nat.le_add_right ..).trans inTime)
  · intro taken selected
    -- a frame is taken up before the alarm only
    have going := ((heeds_select mux deadline).of_outcome (.refl mux) selected).2 (by simp)
    have early := alarmed.lt_of_going going.uncancelled
    rw [alarmed.timeout]
    omega

/-- Steps that are made one after the other are not given up either. -/
theorem stepOn_unabandoned (alarmed : Alarmed timeout alarm mux)
    (inTime : alarm + timeout ≤ deadline) : outcomeOf (stepOn deadline mux) ≠ .error .abandoned := by
  fun_induction stepOn deadline mux with
  | case1 mux cancelled => simp [outcomeOf]
  | case2 mux going halt after given =>
    have unabandoned := step_unabandoned_of_alarmed alarmed inTime
    rwa [given] at unabandoned
  | case3 mux going after given stopped => simp [outcomeOf]
  | case4 mux going after given goingThen inductionHypothesis =>
    have stepping := (alarmed_steady timeout alarm).step deadline mux alarmed
    rw [given] at stepping
    exact inductionHypothesis stepping

/-- A run whose work is going to be cancelled is not given up by a caller that waits until then and for
an answer of the slave behind that. -/
theorem run_unabandoned (awaited : mux.cancelAt = some alarm)
    (inTime : alarm + mux.routing.responseTimeout ≤ deadline) :
    outcomeOf (run deadline mux) ≠ .error .abandoned := by
  have alarmed : Alarmed mux.routing.responseTimeout alarm mux := ⟨rfl, .inr awaited⟩
  exact stepOn_unabandoned (alarmed.atTime mux.now) inTime

end MeterBus.Multiplexer
