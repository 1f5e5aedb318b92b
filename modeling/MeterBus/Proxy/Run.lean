import MeterBus.Proxy.Multiplexer

/-!
# Runs of the multiplexer

A run makes one step after the other until the work is cancelled or a step does not come to its
end. It ends because every step that does takes a frame from what the lines can still give:
`supply_step` says so.
-/

namespace MeterBus.Multiplexer

/-- The number of bytes that the lines can still give. -/
def supply (mux : Multiplexer) : Nat :=
  mux.lines.externalMaster.supply + mux.lines.slave.supply + mux.lines.localMaster.supply

/-! ## Changes of the state -/

@[simp] theorem supply_atTime (time : Nat) (mux : Multiplexer) :
    (mux.atTime time).supply = mux.supply := rfl

@[simp] theorem supply_note (activity : Activity) (mux : Multiplexer) :
    (mux.note activity).supply = mux.supply := rfl

@[simp] theorem supply_noteCodec (port : Port) (events : List Codec.Event) (mux : Multiplexer) :
    (mux.noteCodec port events).supply = mux.supply := by
  induction events generalizing mux with
  | nil => rfl
  | cons event events inductionHypothesis => exact inductionHypothesis _

@[simp] theorem supply_noteRelief (port : Port) (written : List UInt8) (mux : Multiplexer) :
    (mux.noteRelief port written).supply = mux.supply := by
  unfold noteRelief
  split
  · rfl
  · exact supply_note ..

@[simp] theorem supply_noteStale (frames : List (Frame × List Codec.Event)) (mux : Multiplexer) :
    (mux.noteStale frames).supply = mux.supply := by
  induction frames generalizing mux with
  | nil => rfl
  | cons frame frames inductionHypothesis =>
    refine (inductionHypothesis _).trans ?_
    simp

/-- Only the replaced line matters. -/
theorem supply_setLine (port : Port) (line : Line) (mux : Multiplexer) :
    (mux.setLine port line).supply + (mux.lines.get port).supply = mux.supply + line.supply := by
  cases port <;> simp only [supply, setLine, PerPort.set, PerPort.get] <;> omega

/-! ## Proceedings -/

/-- The state that a proceeding leaves, whether it comes to its end or not. -/
def leftBy {α : Type} : EStateM.Result Halt Multiplexer α → Multiplexer
  | .ok _ mux => mux
  | .error _ mux => mux

/-- A proceeding that adds nothing to what the lines can give. -/
def Frugal {α : Type} (proceeding : Proceeding α) : Prop :=
  ∀ mux, (leftBy (proceeding mux)).supply ≤ mux.supply

namespace Frugal

variable {α β : Type}

theorem pure (value : α) : Frugal (Pure.pure value) := fun _ => Nat.le_refl _

theorem fail (error : ProxyError) : Frugal (Multiplexer.fail (α := α) error) :=
  fun _ => Nat.le_refl _

theorem abandon : Frugal (throw .abandoned : Proceeding α) := fun _ => Nat.le_refl _

theorem report (activity : Activity) : Frugal (Multiplexer.report activity) :=
  fun _ => Nat.le_refl _

theorem bind {first : Proceeding α} {second : α → Proceeding β} (one : Frugal first)
    (two : ∀ value, Frugal (second value)) : Frugal (first >>= second) := by
  intro mux
  have before := one mux
  simp only [Bind.bind, EStateM.bind]
  cases result : first mux with
  | ok value after =>
    rw [result] at before
    exact Nat.le_trans (two value after) before
  | error halt after => rwa [result] at before

theorem get_bind {second : Multiplexer → Proceeding β}
    (two : ∀ mux, (leftBy (second mux mux)).supply ≤ mux.supply) :
    Frugal (get >>= second) :=
  fun mux => two mux

theorem set_bind {second : Proceeding β} {after : Multiplexer} (mux : Multiplexer)
    (less : after.supply ≤ mux.supply) (two : Frugal second) :
    (leftBy ((set after >>= fun _ => second) mux)).supply ≤ mux.supply :=
  Nat.le_trans (two after) less

theorem poll (port : Port) : Frugal (Multiplexer.poll port) := by
  refine get_bind fun mux => set_bind mux ?_ (pure _)
  have replaced := mux.supply_setLine port ((mux.lines.get port).poll mux.now).2.1
  have used := Line.supply_poll_le mux.now (mux.lines.get port)
  rw [supply_noteCodec]
  omega

theorem send (port : Port) (frame : Frame) : Frugal (Multiplexer.send port frame) := by
  refine get_bind fun mux => set_bind mux ?_ ?_
  · have replaced := mux.supply_setLine port ((mux.lines.get port).send mux.now frame).line
    have kept := Line.supply_send mux.now frame (mux.lines.get port)
    rw [supply_noteCodec, supply_noteRelief]
    omega
  · split
    · exact report _
    · exact fail _

theorem discardStale : Frugal Multiplexer.discardStale := by
  refine get_bind fun mux => set_bind mux ?_ ?_
  · have replaced := mux.supply_setLine .slave (mux.lines.slave.readyFrames mux.now).line
    have used := Line.supply_readyFrames_le mux.now mux.lines.slave
    rw [supply_noteCodec, supply_noteStale]
    simp only [PerPort.get] at replaced
    omega
  · split
    · exact fail _
    · exact fail _
    · exact pure _

theorem awaitSlave (limit : Nat) : Frugal (Multiplexer.awaitSlave limit) := by
  refine get_bind fun mux => set_bind mux ?_ (pure _)
  have replaced := mux.supply_setLine .slave (mux.lines.slave.await mux.now limit).line
  have used : (mux.lines.slave.await mux.now limit).line.supply ≤ mux.lines.slave.supply :=
    Line.supply_awaitAt_le ..
  rw [supply_noteCodec, supply_atTime]
  simp only [PerPort.get] at replaced
  omega

theorem exchange (deadline : Nat) (origin : Port) (request : Frame) :
    Frugal (Multiplexer.exchange deadline origin request) := by
  refine discardStale.bind fun _ => (report _).bind fun _ => (send _ _).bind fun _ => ?_
  refine get_bind fun mux => ?_
  refine ((awaitSlave _).bind fun poll => ?_) mux
  split
  · split
    · exact report _
    · exact abandon
  · exact fail _
  · exact fail _
  · exact (report _).bind fun _ => (report _).bind fun _ => (send _ _).bind fun _ => report _

theorem acknowledge (port : Port) : Frugal (Multiplexer.acknowledge port) :=
  (report _).bind fun _ => (send _ _).bind fun _ => report _

theorem carryOut (deadline : Nat) (port : Port) (frame : Frame) (decision : Decision) :
    Frugal (Multiplexer.carryOut deadline port frame decision) := by
  cases decision with
  | acknowledge => exact acknowledge port
  | acknowledgeSelection => exact (report _).bind fun _ => acknowledge port
  | forward request => exact exchange deadline port request
  | ignore => exact report _
  | reject => exact report _

theorem handle (deadline : Nat) (port : Port) (frame : Frame) :
    Frugal (Multiplexer.handle deadline port frame) := by
  refine get_bind fun mux => ?_
  cases port with
  | externalMaster => exact carryOut _ _ _ _ mux
  | localMaster => exact carryOut _ _ _ _ mux
  | slave => exact report _ mux

theorem deafTo (port : Port) : Frugal (modify (Multiplexer.deafTo port) : Proceeding Unit) :=
  fun _ => Nat.le_refl _

theorem take? (port : Port) : Frugal (Multiplexer.take? port) := by
  refine get_bind fun mux => ?_
  split
  · exact Nat.le_refl _
  · refine ((poll port).bind fun poll => ?_) mux
    cases poll with
    | pending => exact pure _
    | ended => exact (report _).bind fun _ => (deafTo port).bind fun _ => pure _
    | failure cause => exact fail _
    | frame frame => exact (report _).bind fun _ => pure _

theorem takeFirst? (ports : List Port) : Frugal (Multiplexer.takeFirst? ports) := by
  induction ports with
  | nil => exact pure _
  | cons port others inductionHypothesis =>
    refine (take? port).bind fun taken => ?_
    cases taken with
    | none => exact inductionHypothesis
    | some frame => exact pure _

end Frugal

/-! ## Frames that are taken -/

/-- Splits a sequence of proceedings that comes to its end. -/
theorem bind_eq_ok {α β : Type} {first : Proceeding α} {second : α → Proceeding β}
    {mux after : Multiplexer} {value : β} (ended : (first >>= second) mux = .ok value after) :
    ∃ between middle, first mux = .ok between middle ∧ second between middle = .ok value after := by
  simp only [Bind.bind, EStateM.bind] at ended
  cases result : first mux with
  | ok between middle => exact ⟨between, middle, rfl, by simpa [result] using ended⟩
  | error halt middle => simp [result] at ended

/-- A sequence that begins by looking at the state goes on from that state. -/
theorem get_bind_eq_ok {β : Type} {second : Multiplexer → Proceeding β} {mux after : Multiplexer}
    {value : β} (ended : (get >>= second) mux = .ok value after) :
    second mux mux = .ok value after :=
  ended

/-- A poll that gives a frame takes it from what the lines can give. -/
theorem supply_poll_lt {port : Port} {frame : Frame} {mux after : Multiplexer}
    (given : poll port mux = .ok (.frame frame) after) : after.supply < mux.supply := by
  have replaced := mux.supply_setLine port ((mux.lines.get port).poll mux.now).2.1
  have result : EStateM.Result.ok ((mux.lines.get port).poll mux.now).1
      ((mux.setLine port ((mux.lines.get port).poll mux.now).2.1).noteCodec port
        ((mux.lines.get port).poll mux.now).2.2) = .ok (.frame frame) after := given
  injection result with polled left
  have used := Line.supply_poll_lt polled
  rw [← left, supply_noteCodec]
  omega

/-- A port that gives a frame takes it from what the lines can give. -/
theorem supply_take?_lt {port : Port} {frame : Frame} {mux after : Multiplexer}
    (given : take? port mux = .ok (some frame) after) : after.supply < mux.supply := by
  have given := get_bind_eq_ok given
  split at given
  · cases given
  · obtain ⟨polled, middle, polledEq, given⟩ := bind_eq_ok given
    cases polled with
    | pending => cases given
    | ended => cases given
    | failure cause => cases given
    | frame frame =>
      have used := supply_poll_lt polledEq
      obtain ⟨_, _, reported, given⟩ := bind_eq_ok given
      cases reported
      cases given
      exact used

/-- Some port that gives a frame takes it from what the lines can give. -/
theorem supply_takeFirst?_lt {ports : List Port} {taken : Port × Frame}
    {mux after : Multiplexer} (given : takeFirst? ports mux = .ok (some taken) after) :
    after.supply < mux.supply := by
  induction ports generalizing mux with
  | nil => cases given
  | cons port others inductionHypothesis =>
    obtain ⟨first, middle, firstEq, given⟩ := bind_eq_ok given
    cases first with
    | some frame =>
      cases given
      exact supply_take?_lt firstEq
    | none =>
      have before := Frugal.take? port mux
      rw [firstEq] at before
      exact Nat.lt_of_lt_of_le (inductionHypothesis given) before

/-- Waiting for a frame ends with one taken from what the lines can give, or with a
cancellation. -/
theorem supply_takeAt {deadline : Nat} {instants : List Nat} {taken : Option (Port × Frame)}
    {mux after : Multiplexer} (given : takeAt deadline instants mux = .ok taken after) :
    (taken = none ∧ after.cancelled = true) ∨ (taken ≠ none ∧ after.supply < mux.supply) := by
  induction instants generalizing mux with
  | nil => cases given
  | cons instant later inductionHypothesis =>
    obtain ⟨_, _, advanced, given⟩ := bind_eq_ok given
    cases advanced
    have given := get_bind_eq_ok given
    split at given
    · next stopped =>
      cases given
      exact .inl ⟨rfl, stopped⟩
    · obtain ⟨found, middle, foundEq, given⟩ := bind_eq_ok given
      cases found with
      | some found =>
        cases given
        have less : after.supply < (mux.atTime instant).supply := supply_takeFirst?_lt foundEq
        exact .inr ⟨by simp, less⟩
      | none =>
        have given := get_bind_eq_ok given
        have before := Frugal.takeFirst? precedence (mux.atTime instant)
        rw [foundEq] at before
        split at given
        · rcases inductionHypothesis given with stopped | ⟨some, less⟩
          · exact .inl stopped
          · exact .inr ⟨some, Nat.lt_of_lt_of_le less before⟩
        · cases given

/-- A step that comes to its end takes a frame from what the lines can give, or is cancelled. -/
theorem supply_step {deadline : Nat} {mux after : Multiplexer}
    (given : step deadline mux = .ok () after) :
    after.cancelled = true ∨ after.supply < mux.supply := by
  have given := get_bind_eq_ok given
  obtain ⟨_, _, advanced, given⟩ := bind_eq_ok given
  cases advanced
  split at given
  · cases given
  · obtain ⟨taken, middle, takenEq, given⟩ := bind_eq_ok given
    rcases supply_takeAt takenEq with ⟨rfl, stopped⟩ | ⟨some, less⟩
    · cases given
      exact .inl stopped
    · obtain ⟨⟨port, frame⟩, rfl⟩ := Option.ne_none_iff_exists'.1 some
      have rest := Frugal.handle deadline port frame middle
      rw [show handle deadline port frame middle = .ok () after from given] at rest
      exact .inr (Nat.lt_of_le_of_lt rest less)

/-- Steps until the work is cancelled or a step does not come to its end. -/
def stepOn (deadline : Nat) (mux : Multiplexer) : EStateM.Result Halt Multiplexer Unit :=
  if mux.cancelled then .ok () mux
  else
    match _given : step deadline mux with
    | .error halt after => .error halt after
    | .ok () after => if _stopped : after.cancelled then .ok () after else stepOn deadline after
termination_by mux.supply
decreasing_by
  rcases supply_step _given with cancelled | less
  · exact absurd cancelled _stopped
  · exact less

/-- Runs until the work is cancelled or a step does not come to its end. -/
def run (deadline : Nat) : Proceeding Unit := do
  advanceTo (← get).now
  stepOn deadline

end MeterBus.Multiplexer
