import MeterBus.Proofs.Log.Severity
import MeterBus.Proofs.Settings.Routing

/-!
# Which settings can be used

Settings are checked as a whole before a program opens its first port. A check makes the demands of all
its parts in their order, and once they are met each part can be used.
-/

namespace MeterBus

/-- Whether a text names something: it holds more than blanks. -/
def IsPath (text : String) : Prop :=
  ∃ c ∈ text.toList, ¬ Blank.isBlank c

/-- A text names something unless all of it is blank. -/
theorem isEmpty_iff_not_isPath (text : String) : Blank.isEmpty text = true ↔ ¬ IsPath text := by
  simp [Blank.isEmpty, IsPath]

namespace Settings

variable {settings : Settings}

/-- What settings have to meet before a program can start. -/
structure IsUsable (settings : Settings) : Prop where
  path : ∀ port, ∃ path, settings.ports.get port = some path ∧ IsPath path
  baudrate : settings.serial.baudrate ≠ 0
  routing : settings.routing.IsUsable
  logLevel : ∃ level : Log.Level, level.Names settings.monitoring.logLevel.toList

/-- What a port has to meet. -/
def portDemand (settings : Settings) (port : Port) : Demand :=
  ⟨∃ path, settings.ports.get port = some path ∧ IsPath path, .missingPort port⟩

/-- What the severity has to meet. -/
def levelDemand (settings : Settings) : Demand :=
  ⟨∃ level : Log.Level, level.Names settings.monitoring.logLevel.toList,
    .logLevel settings.monitoring.logLevel⟩

/-- What settings have to meet, in the order in which it is checked. -/
def demands (settings : Settings) : List Demand :=
  [settings.portDemand .externalMaster, settings.portDemand .slave,
    settings.portDemand .localMaster, ⟨settings.serial.baudrate ≠ 0, .baudrate⟩]
    ++ (settings.routing.demands ++ [settings.levelDemand])

/-- Settings of which everything can be used that a program asks for later. -/
structure IsReady (settings : Settings) : Prop where
  path : ∀ port, ∃ path, settings.portPath port = .ok path
  routing : ∃ routing, settings.checkedRouting = .ok routing
  logLevel : ∃ level, settings.logLevel = .ok level

/-- Settings are usable if they meet all that is checked. -/
theorem isUsable_iff (settings : Settings) :
    settings.IsUsable ↔ Demand.AllMet settings.demands := by
  simp only [Demand.AllMet, demands, List.forall_mem_append, List.forall_mem_cons,
    List.not_mem_nil, false_imp_iff, implies_true, and_true]
  rw [← Demand.AllMet, ← RoutingSettings.isUsable_iff]
  constructor
  · rintro ⟨path, baudrate, routing, logLevel⟩
    exact ⟨⟨path _, path _, path _, baudrate⟩, routing, logLevel⟩
  · rintro ⟨⟨externalMaster, slave, localMaster, baudrate⟩, routing, logLevel⟩
    refine ⟨fun port => ?_, baudrate, routing, logLevel⟩
    cases port with
    | externalMaster => exact externalMaster
    | slave => exact slave
    | localMaster => exact localMaster

/-- The path of a port is checked as its demand says. -/
theorem makes_portPath (settings : Settings) (port : Port) :
    Demand.Makes (settings.portPath port) [settings.portDemand port] := by
  refine Demand.makes_singleton (fun met => ?_) fun unmet => ?_
  · obtain ⟨path, given, isPath⟩ := met
    refine ⟨path, ?_⟩
    have visible : ¬ Blank.isEmpty path = true := fun blank =>
      (isEmpty_iff_not_isPath path).1 blank isPath
    simp only [portPath, given, if_neg visible]
  · unfold portPath
    split
    · next path given =>
      have blank := (isEmpty_iff_not_isPath path).2 fun isPath => unmet ⟨path, given, isPath⟩
      rw [if_pos blank]
    · rfl

/-- The severity is checked as its demand says. -/
theorem makes_logLevel (settings : Settings) :
    Demand.Makes settings.logLevel [settings.levelDemand] := by
  refine Demand.makes_singleton (fun met => ?_) fun unmet => ?_
  · obtain ⟨level, names⟩ := met
    refine ⟨level, ?_⟩
    rw [logLevel, Log.Level.ofText?_eq_some_iff.2 names]
  · unfold logLevel
    split
    · next level read => exact absurd ⟨level, Log.Level.ofText?_eq_some_iff.1 read⟩ unmet
    · rfl

/-- Settings are checked as the demands say. -/
theorem makes_validate (settings : Settings) : Demand.Makes settings.validate settings.demands := by
  have baudrate : settings.serial.baudrate = 0 ↔ ¬ settings.serial.baudrate ≠ 0 :=
    Decidable.not_not.symm
  have behindPorts :
      Demand.Makes
        (if settings.serial.baudrate = 0 then .error .baudrate else do
          let _ ← settings.checkedRouting
          let _ ← settings.logLevel
          pure ())
        (⟨settings.serial.baudrate ≠ 0, .baudrate⟩ ::
          (settings.routing.demands ++ ([settings.levelDemand] ++ []))) :=
    .ite (.bind settings.makes_checkedRouting fun _ =>
      .bind settings.makes_logLevel fun _ => Demand.makes_ok ()) baudrate
  have made := Demand.Makes.bind (settings.makes_portPath .externalMaster) fun _ =>
    .bind (settings.makes_portPath .slave) fun _ =>
      .bind (settings.makes_portPath .localMaster) fun _ => behindPorts
  exact made

/-- Everything of usable settings can be used. -/
theorem IsUsable.isReady (usable : settings.IsUsable) : settings.IsReady := by
  have single {demand : Demand} (met : demand.met) : Demand.AllMet [demand] :=
    List.forall_mem_singleton.2 met
  refine ⟨fun port => ?_, ?_, ?_⟩
  · exact (settings.makes_portPath port).accepts_iff.2 (single (usable.path port))
  · exact settings.makes_checkedRouting.accepts_iff.2
      ((RoutingSettings.isUsable_iff _).1 usable.routing)
  · exact settings.makes_logLevel.accepts_iff.2 (single usable.logLevel)

end Settings

end MeterBus
