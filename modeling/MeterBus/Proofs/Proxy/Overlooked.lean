import MeterBus.Proofs.Proxy.Upkeep
import MeterBus.Proofs.Stream.Patience

/-!
# Ports that are passed over

A step looks at one port after the other, and at each of them again at every instant at which something
may happen, until one gives a frame. Looking at a port that has nothing to give makes no difference to what
it gives later. So what a port gives at an instant can be said of its line as it was at the start, however
often the port has been looked at in between.
-/

namespace MeterBus

/-- Whether a line gives and leaves the same as another one, from some time on. -/
structure Line.Resumes (start : Line) (now : Nat) (line : Line) : Prop where
  answer : ∀ time, now ≤ time → (line.poll time).1 = (start.poll time).1
  left : ∀ time, now ≤ time → (line.poll time).2.1 = (start.poll time).2.1

namespace Line.Resumes

variable {start line : Line} {now time : Nat}

/-- A line resumes itself. -/
theorem refl (line : Line) (now : Nat) : line.Resumes now line :=
  ⟨fun _ _ => rfl, fun _ _ => rfl⟩

/-- What holds from some time on does so from any later time on. -/
theorem later (resumes : start.Resumes now line) (later : now ≤ time) : start.Resumes time line :=
  ⟨fun instant after => resumes.answer instant (later.trans after),
    fun instant after => resumes.left instant (later.trans after)⟩

/-- A poll that gives nothing makes no difference. -/
theorem polled (resumes : start.Resumes now line) (nothing : (line.poll now).1 = .pending) :
    start.Resumes now (line.poll now).2.1 where
  answer := fun time after => (poll_again after nothing).1.trans (resumes.answer time after)
  left := fun time after => (poll_again after nothing).2.trans (resumes.left time after)

end Line.Resumes

namespace Multiplexer

variable {start mux : Multiplexer} {port other : Port} {frame : Frame} {deadline now : Nat}

/-- Whether a port is not listened to or has nothing to give at this instant, by its line as it was at the
start. -/
def Silent (start : Multiplexer) (port : Port) (mux : Multiplexer) : Prop :=
  mux.listening.get port = false ∨ ((start.lines.get port).poll mux.now).1 = .pending

/-- Whether it is so late, and the ports that are still listened to have been looked at in vain. -/
structure Overlooked (start : Multiplexer) (now : Nat) (mux : Multiplexer) : Prop where
  time : mux.now = now
  resumes : ∀ port, mux.listening.get port = true →
    (start.lines.get port).Resumes now (mux.lines.get port)

/-- A port stays silent while others are looked at. -/
theorem silent_upkept (start : Multiplexer) (port : Port) :
    Upkept (fun _ => True) (Silent start port) where
  reports := fun _ _ => trivial
  taking := fun _ _ _ _ silent => silent
  telling := fun _ _ _ silent => silent
  deafening := by
    intro other mux silent
    change (mux.listening.set other false).get port = false ∨ _
    by_cases same : port = other
    · rw [same, PerPort.get_set_self]
      exact .inl rfl
    · rw [PerPort.get_set_of_ne _ _ same]
      exact silent

/-- A poll that gives nothing makes no difference to any port. -/
theorem Overlooked.polling (overlooked : Overlooked start now mux)
    (listening : mux.listening.get port = true)
    (nothing : ((mux.lines.get port).poll mux.now).1 = .pending) :
    Overlooked start now (mux.polling port) where
  time := sameButTrace_polling.now.trans overlooked.time
  resumes := by
    intro other listeningOther
    rw [Multiplexer.polling, listening_noteCodec] at listeningOther
    rw [sameButTrace_polling.lines]
    change (start.lines.get other).Resumes now ((mux.lines.set port _).get other)
    by_cases same : other = port
    · subst same
      rw [overlooked.time] at nothing ⊢
      rw [PerPort.get_set_self]
      exact (overlooked.resumes other listening).polled nothing
    · rw [PerPort.get_set_of_ne _ _ same]
      exact overlooked.resumes other listeningOther

/-- A port that ends makes no difference to those that are still listened to. -/
theorem Overlooked.ended (overlooked : Overlooked start now mux) (port : Port) :
    Overlooked start now (((mux.polling port).note (.ended port)).deafTo port) where
  time := sameButTrace_polling.now.trans overlooked.time
  resumes := by
    intro other listening
    change ((mux.polling port).listening.set port false).get other = true at listening
    change (start.lines.get other).Resumes now ((mux.polling port).lines.get other)
    have distinct : other ≠ port := by
      rintro rfl
      rw [PerPort.get_set_self] at listening
      cases listening
    rw [PerPort.get_set_of_ne _ _ distinct, Multiplexer.polling, listening_noteCodec] at listening
    rw [sameButTrace_polling.lines]
    change (start.lines.get other).Resumes now ((mux.lines.set port _).get other)
    rw [PerPort.get_set_of_ne _ _ distinct]
    exact overlooked.resumes other listening

/-- Looking at a port in vain leaves it silent, and makes no difference to any port that is listened to. -/
theorem overlooked_take? (start : Multiplexer) (port : Port) :
    Ensures (Overlooked start now) (take? port)
      (fun found mux => found = none → Overlooked start now mux ∧ Silent start port mux)
      (fun _ => True) := by
  intro mux overlooked
  cases listening : mux.listening.get port with
  | false =>
    rw [take?_of_deaf listening]
    exact fun _ => ⟨overlooked, .inl listening⟩
  | true =>
    rw [take?_of_listening listening]
    cases given : ((mux.lines.get port).poll mux.now).1 with
    | pending =>
      have known := (overlooked.resumes port listening).answer _ overlooked.time.ge
      have silent : ((start.lines.get port).poll (mux.polling port).now).1 = .pending := by
        rw [sameButTrace_polling.now]
        exact known.symm.trans given
      exact fun _ => ⟨overlooked.polling listening given, .inr silent⟩
    | ended =>
      have deaf : (((mux.polling port).note (.ended port)).deafTo port).listening.get port = false :=
        PerPort.get_set_self ..
      exact fun _ => ⟨overlooked.ended port, .inl deaf⟩
    | failure cause => trivial
    | frame frame => simp

/-- A frame is taken from a port when those that were looked at before are silent. -/
theorem overlooked_takeFirst? (start : Multiplexer) (ports : List Port) :
    Ensures (Overlooked start now) (takeFirst? ports)
      (fun found mux => match found with
        | none => Overlooked start now mux ∧ ∀ other ∈ ports, Silent start other mux
        | some (port, _) => ∀ other ∈ ports.takeWhile (· ≠ port), Silent start other mux)
      (fun _ => True) := by
  induction ports with
  | nil => exact .pure _ fun _ here => ⟨here, by simp⟩
  | cons port others inductionHypothesis =>
    apply (overlooked_take? start port).bind
    intro found
    cases found with
    | some frame => exact .pure _ fun _ _ => by simp
    | none =>
      have silence := (silent_upkept start port).takeFirst? tellsTakings_true others
      apply (inductionHypothesis.keeping silence).mono
      · exact fun _ here => here rfl
      · rintro found mux ⟨behind, silent⟩
        cases found with
        | none => exact ⟨behind.1, List.forall_mem_cons.2 ⟨silent, behind.2⟩⟩
        | some taken =>
          obtain ⟨origin, frame⟩ := taken
          intro other among
          rw [List.takeWhile_cons] at among
          split at among
          · rcases List.mem_cons.1 among with rfl | among
            · exact silent
            · exact behind other among
          · simp at among
      · exact fun _ _ => trivial

/-- At each of some later instants, a frame is taken when the ports before are silent. -/
theorem overlooked_takeAt (start : Multiplexer) (deadline : Nat) (instants : List Nat)
    (ascending : (now :: instants).Pairwise (· ≤ ·)) :
    Ensures (Overlooked start now) (takeAt deadline instants)
      (fun found mux => ∀ port frame, found = some (port, frame) →
        ∀ other ∈ precedence.takeWhile (· ≠ port), Silent start other mux)
      (fun _ => True) := by
  induction instants generalizing now with
  | nil => exact fun _ _ => trivial
  | cons instant later inductionHypothesis =>
    obtain ⟨least, ascendingThen⟩ := List.pairwise_cons.1 ascending
    have advancing : Ensures (Overlooked start now) (advanceTo instant)
        (fun _ => Overlooked start instant) (fun _ => True) := by
      intro mux overlooked
      refine ⟨rfl, fun port listening => ?_⟩
      exact (overlooked.resumes port listening).later (least instant (List.mem_cons_self ..))
    rw [takeAt]
    apply advancing.bind
    intro _
    apply Ensures.get_bind
    intro state
    split
    · exact fun _ _ port frame found => by cases found
    · apply ((overlooked_takeFirst? start precedence).of_stronger fun _ here => here.2).bind
      intro found
      cases found with
      | some taken =>
        apply Ensures.pure
        intro mux silent port frame same
        cases same
        exact silent
      | none =>
        dsimp only
        apply Ensures.get_bind
        intro state
        split
        · exact (inductionHypothesis ascendingThen).of_stronger fun _ here => here.2.1
        · exact .halt _ fun _ _ => trivial

/-- The instants at which the ports are looked at: those at which something becomes due on a line, and that
of the cancellation. -/
theorem mem_agenda {time : Nat} : time ∈ mux.agenda deadline ↔
    ((∃ port, time ∈ (mux.lines.get port).dueTimes) ∨ time ∈ mux.cancelAt) ∧
      mux.now < time ∧ time ≤ deadline := by
  have ports : time ∈ (mux.lines.toList.map Line.dueTimes).flatten
      ↔ ∃ port, time ∈ (mux.lines.get port).dueTimes := by
    constructor
    · intro among
      simp only [PerPort.toList, List.map_cons, List.map_nil, List.flatten_cons, List.mem_append] at among
      rcases among with external | slave | here | none
      · exact ⟨.externalMaster, external⟩
      · exact ⟨.slave, slave⟩
      · exact ⟨.localMaster, here⟩
      · cases none
    · rintro ⟨port, among⟩
      cases port <;> simp_all [PerPort.toList, PerPort.get]
  rw [agenda, Line.mem_timesWithin, List.mem_append, ports, Option.mem_toList]
  rfl

/-- The ports are looked at at one instant after the other. -/
theorem pairwise_agenda (deadline : Nat) (mux : Multiplexer) :
    (mux.now :: mux.now :: mux.agenda deadline).Pairwise (· ≤ ·) := by
  have later : ∀ instant ∈ mux.agenda deadline, mux.now ≤ instant :=
    fun instant among => (mem_agenda.1 among).2.1.le
  exact .cons (by simpa using later) (.cons later (Line.pairwise_timesWithin ..))

/-- At the start nothing has been looked at. -/
theorem overlooked_atTime (mux : Multiplexer) : Overlooked mux mux.now (mux.atTime mux.now) :=
  ⟨rfl, fun _ _ => .refl _ _⟩

/-- A step takes a frame from a port when those before it have ended or have nothing to give. -/
theorem silent_of_select (selected : outcomeOf (select deadline mux) = .ok (some (port, frame)))
    (before : other ∈ precedence.takeWhile (· ≠ port)) :
    Silent mux other (leftBy (select deadline mux)) := by
  have listening := anyListening_of_select selected
  rw [select_of_listening deadline listening] at selected ⊢
  exact (overlooked_takeAt mux deadline _ (pairwise_agenda deadline mux)).of_outcome
    (overlooked_atTime mux) selected port frame rfl other before

end Multiplexer

end MeterBus
