import MeterBus.Program.Startup
import MeterBus.Proofs.Proxy.Interruption
import MeterBus.Proofs.Settings.Validation

/-!
# How a start goes

A start with settings that are ready goes on until something outside them stops it: the host has no place
for the metrics or no device for a port, the multiplexer fails, or the program is interrupted.
`start_of_isReady` says that it succeeds in the last of these cases only, and that in the others there is
a reason besides the one that names what failed.
-/

namespace MeterBus.Startup

variable {α β : Type} {host : Host} {settings : Settings}

/-! ## Work -/

/-- Whether work that comes to its end gives a value of a kind, and where it fails gives more than one
reason and leaves something true. -/
def Leads (work : Work α) (ended : α → Prop) (failed : Prop) : Prop :=
  ∀ records, match work records with
    | .ok value _ => ended value
    | .error causes _ => 1 < causes.length ∧ failed

namespace Leads

variable {ended : α → Prop} {behind : β → Prop} {failed weaker : Prop}

/-- Work that is done. -/
theorem pure {value : α} (here : ended value) : Leads (Pure.pure value) ended failed :=
  fun _ => here

/-- Work that fails for more than one reason. -/
theorem fail {causes : List String} (several : 1 < causes.length) (here : failed) :
    Leads (throw causes : Work α) ended failed :=
  fun _ => ⟨several, here⟩

/-- Work goes on where other work has come to its end. -/
theorem bind {first : Work α} {second : α → Work β} (one : Leads first ended failed)
    (two : ∀ value, ended value → Leads (second value) behind failed) :
    Leads (first >>= second) behind failed := by
  intro records
  have there := one records
  simp only [Bind.bind, EStateM.bind]
  cases result : first records with
  | ok value after =>
    rw [result] at there
    exact two value there after
  | error causes after =>
    rw [result] at there
    exact there

/-- What is true where work fails implies something else. -/
theorem weaken {work : Work α} (leads : Leads work ended failed) (weaken : failed → weaker) :
    Leads work ended weaker := by
  intro records
  have there := leads records
  cases result : work records with
  | ok value after => rwa [result] at there
  | error causes after =>
    rw [result] at there
    exact ⟨there.1, weaken there.2⟩

/-- Telling something does not fail. -/
theorem log (records : List Log.Record) : Leads (Startup.log records) (fun _ => True) failed :=
  fun _ => trivial

/-- A part of the settings that can be used is there when it is needed. -/
theorem need {part : Except InvalidSetting α} (usable : ∃ value, part = .ok value) :
    Leads (Startup.need part) (fun value => part = .ok value) failed := by
  obtain ⟨value, rfl⟩ := usable
  exact .pure rfl

end Leads

/-! ## The interruption -/

/-- Whether the multiplexer on some lines is at work until the program is interrupted. -/
def Interrupted (host : Host) (routing : Routing) (lines : PerPort Line) : Prop :=
  ∃ after, Multiplexer.run (patience host routing) (multiplexer host routing lines) = .ok () after ∧
    after.cancelled = true

/-- The multiplexer is never given up. -/
theorem run_multiplexer_unabandoned (host : Host) (routing : Routing) (lines : PerPort Line)
    (after : Multiplexer) :
    Multiplexer.run (patience host routing) (multiplexer host routing lines)
      ≠ .error .abandoned after := by
  intro abandoned
  have awaited : (multiplexer host routing lines).cancelAt = some host.interrupt := rfl
  have unabandoned := Multiplexer.run_unabandoned awaited (Nat.le_refl (patience host routing))
  rw [abandoned] at unabandoned
  exact unabandoned rfl

/-- The multiplexer is interrupted, or its failure is a reason besides that it has stopped. -/
theorem multiplex_leads (host : Host) (routing : Routing) (lines : PerPort Line) :
    Leads (multiplex host routing lines) (fun _ => Interrupted host routing lines)
      (¬ Interrupted host routing lines) := by
  have unabandoned := run_multiplexer_unabandoned host routing lines
  unfold multiplex
  apply (Leads.log _).bind
  intro _ _
  split
  · next error after failed =>
    apply Leads.fail
    · simp only [ProxyError.causes, List.length_cons]
      omega
    · rintro ⟨after, ended, _⟩
      cases failed.symm.trans ended
  · next after ended =>
    refine .pure ⟨after, ended, ?_⟩
    have cancelled := (Multiplexer.balanced_run (congrArg Multiplexer.outcomeOf ended)).1
    rwa [ended] at cancelled
  · next after abandoned => exact absurd abandoned (unabandoned after)

/-! ## The ports and the metrics -/

/-- Whether a line is the one of a port, on the device under its path, with nothing read yet. -/
def IsOpen (host : Host) (settings : Settings) (port : Port) (line : Line) : Prop :=
  ∃ path peer, settings.portPath port = .ok path ∧ host.peer? path = some peer ∧
    line = peer.line .strict

/-- A port has one line. -/
theorem IsOpen.unique {port : Port} {line other : Line} (isOpen : IsOpen host settings port line)
    (otherwise : IsOpen host settings port other) : line = other := by
  obtain ⟨path, peer, pathEq, there, rfl⟩ := isOpen
  obtain ⟨pathThen, peerThen, pathEqThen, thereThen, rfl⟩ := otherwise
  cases pathEq.symm.trans pathEqThen
  cases there.symm.trans thereThen
  rfl

/-- A port is opened if there is a device under its path. -/
theorem openPort_leads (ready : settings.IsReady) (host : Host) (port : Port) :
    Leads (openPort host settings port) (IsOpen host settings port)
      (¬ ∃ line, IsOpen host settings port line) := by
  unfold openPort
  apply (Leads.need (ready.path port)).bind
  intro path pathEq
  apply (Leads.log _).bind
  intro _ _
  unfold Device.connect
  cases there : host.peer? path with
  | none =>
    apply Leads.fail (by simp)
    rintro ⟨line, pathThen, peer, pathEqThen, thereThen, _⟩
    cases pathEq.symm.trans pathEqThen
    cases there.symm.trans thereThen
  | some peer => exact .pure ⟨path, peer, pathEq, there, rfl⟩

/-- Metrics are served if the host can listen on the address for them. -/
theorem serveMetrics_leads (given : Option SocketAddress) :
    Leads (serveMetrics given) (fun _ => ∀ address ∈ given, Host.listenError? address = none)
      (¬ ∀ address ∈ given, Host.listenError? address = none) := by
  cases given with
  | none => exact .pure (by simp)
  | some address =>
    simp only [serveMetrics, Option.mem_some_iff, forall_eq']
    split
    · next listening => exact .pure listening
    · next error refused => exact .fail (by simp) (by simp [refused])

/-! ## The whole start -/

/-- Whether the proxy is at work on all its ports until the program is interrupted. -/
structure Serves (host : Host) (settings : Settings) : Prop where
  listens : ∀ address ∈ settings.monitoring.metricsAddress, Host.listenError? address = none
  opens : ∀ port, ∃ line, IsOpen host settings port line
  multiplexes : ∀ routing lines, settings.checkedRouting = .ok routing →
    (∀ port, IsOpen host settings port (lines.get port)) → Interrupted host routing lines

/-- The work of the proxy ends with the interruption of the program, or it fails for more than one
reason. -/
theorem work_leads (ready : settings.IsReady) (host : Host) :
    Leads (work host settings) (fun _ => Serves host settings) (¬ Serves host settings) := by
  have opening (port : Port) :
      Leads (openPort host settings port) (IsOpen host settings port) (¬ Serves host settings) :=
    (openPort_leads ready host port).weaken fun closed serves => closed (serves.opens port)
  unfold work
  apply ((serveMetrics_leads _).weaken fun deaf serves => deaf serves.listens).bind
  intro _ listens
  apply (opening .externalMaster).bind
  intro externalMaster externalOpen
  apply (opening .slave).bind
  intro slave slaveOpen
  apply (opening .localMaster).bind
  intro localMaster localOpen
  let lines : PerPort Line := ⟨externalMaster, slave, localMaster⟩
  have isOpen (port : Port) : IsOpen host settings port (lines.get port) := by
    cases port with
    | externalMaster => exact externalOpen
    | slave => exact slaveOpen
    | localMaster => exact localOpen
  apply (Leads.log _).bind
  intro _ _
  apply (Leads.need ready.routing).bind
  intro routing routingEq
  have multiplexing := multiplex_leads host routing lines
  apply (multiplexing.weaken fun failed serves =>
    failed (serves.multiplexes routing lines routingEq isOpen)).bind
  intro _ interrupted
  refine fun _ => ⟨listens, fun port => ⟨_, isOpen port⟩, fun other others otherEq otherOpen => ?_⟩
  cases routingEq.symm.trans otherEq
  have same : others = lines := by
    rw [PerPort.mk.injEq]
    exact ⟨(otherOpen .externalMaster).unique externalOpen, (otherOpen .slave).unique slaveOpen,
      (otherOpen .localMaster).unique localOpen⟩
  rwa [same]

/-- A start with settings that are ready succeeds if the proxy is at work on all its ports until the
program is interrupted, and otherwise fails for more than one reason. -/
theorem start_of_isReady (ready : settings.IsReady) (host : Host) :
    (Serves host settings ∧ (start host settings).exitCode = 0 ∧ (start host settings).causes = []) ∨
      (¬ Serves host settings ∧ (start host settings).exitCode = 1 ∧
        1 < (start host settings).causes.length) := by
  obtain ⟨level, levelEq⟩ := ready.logLevel
  have leads := work_leads ready host []
  simp only [start, levelEq]
  cases result : work host settings [] with
  | ok done records =>
    rw [result] at leads
    exact .inl ⟨leads, rfl, rfl⟩
  | error causes records =>
    rw [result] at leads
    exact .inr ⟨leads.2, rfl, leads.1⟩

end MeterBus.Startup
