import MeterBus.Proofs.Program.Starting

/-!
# The settings that the proxy starts with

Overrides are merged into the settings of a file before anything is checked, so that only what comes of
the merge counts. `configuration_is_settled` says which settings a start leads to, when it is refused
and with which report, and that nothing which was accepted is found wanting later.
-/

namespace MeterBus.Startup

variable {base merged other settings : Settings} {overrides : Overrides}

/-- What a setting becomes where another value of it may be given. -/
inductive Becomes {α : Type} (before : α) : Option α → α → Prop
  | kept : Becomes before none before
  | replaced (value : α) : Becomes before (some value) value

/-- Settings that come of overrides: each value that is given replaces one setting, and all others
stay as they are. -/
structure Merges (base : Settings) (overrides : Overrides) (merged : Settings) : Prop where
  path : ∀ port, Becomes (base.ports.get port) ((overrides.ports.get port).map some)
    (merged.ports.get port)
  baudrate : Becomes base.serial.baudrate overrides.baudrate merged.serial.baudrate
  parity : merged.serial.parity = base.serial.parity
  routing : merged.routing = base.routing
  logLevel : Becomes base.monitoring.logLevel overrides.logLevel merged.monitoring.logLevel
  logFormat : Becomes base.monitoring.logFormat overrides.logFormat merged.monitoring.logFormat
  metricsAddress : Becomes base.monitoring.metricsAddress (overrides.metricsAddress.map some)
    merged.monitoring.metricsAddress

/-- The settings that a start is based on: those of the file that is named, or the usual ones. A file is
read by `Document.parse?`, and the options come from `CommandLine.read`; both stand for readers of general
use, and nothing that is proved here depends on what they do. -/
inductive IsBase (host : Host) (given : CommandLine.Given) : Settings → Prop
  | usual (unnamed : given.lookup "config" = none) : IsBase host given {}
  | loaded {path : String} {settings : Settings} (named : given.lookup "config" = some path)
      (read : Settings.load host path = .ok settings) : IsBase host given settings

/-! ## Merging -/

/-- A setting becomes one value only. -/
theorem Becomes.unique {α : Type} {before first second : α} {given : Option α}
    (becomes : Becomes before given first) (otherwise : Becomes before given second) :
    first = second := by
  cases becomes with
  | kept => cases otherwise; rfl
  | replaced => cases otherwise; rfl

/-- A value that is given stands in for a usual one. -/
theorem becomes_getD {α : Type} (before : α) (given : Option α) :
    Becomes before given (given.getD before) := by
  cases given with
  | none => exact .kept
  | some value => exact .replaced value

/-- Where there may be no value, one that is given stands in for whatever there is. -/
theorem becomes_orElse {α : Type} (before given : Option α) :
    Becomes before (given.map some) (given <|> before) := by
  cases given with
  | none => exact .kept
  | some value => exact .replaced (some value)

/-- Applying overrides merges them. -/
theorem merges_apply (base : Settings) (overrides : Overrides) :
    Merges base overrides (overrides.apply base) where
  path := by
    intro port
    cases port with
    | externalMaster => exact becomes_orElse _ _
    | slave => exact becomes_orElse _ _
    | localMaster => exact becomes_orElse _ _
  baudrate := becomes_getD _ _
  parity := rfl
  routing := rfl
  logLevel := becomes_getD _ _
  logFormat := becomes_getD _ _
  metricsAddress := becomes_orElse _ _

/-- Overrides are merged in one way only. -/
theorem Merges.unique (merges : Merges base overrides merged)
    (otherwise : Merges base overrides other) : merged = other := by
  have paths (port : Port) : merged.ports.get port = other.ports.get port :=
    (merges.path port).unique (otherwise.path port)
  have ports : merged.ports = other.ports := by
    rw [PerPort.mk.injEq]
    exact ⟨paths .externalMaster, paths .slave, paths .localMaster⟩
  have serial : merged.serial = other.serial := by
    rw [SerialSettings.mk.injEq]
    exact ⟨merges.baudrate.unique otherwise.baudrate, merges.parity.trans otherwise.parity.symm⟩
  have monitoring : merged.monitoring = other.monitoring := by
    rw [MonitoringSettings.mk.injEq]
    exact ⟨merges.logLevel.unique otherwise.logLevel, merges.logFormat.unique otherwise.logFormat,
      merges.metricsAddress.unique otherwise.metricsAddress⟩
  rw [Settings.mk.injEq]
  exact ⟨serial, ports, merges.routing.trans otherwise.routing.symm, monitoring⟩

/-! ## Checking -/

/-- The check of the merged settings decides. -/
theorem makes_configure (merges : Merges base overrides merged) :
    Demand.Makes (configure base overrides) merged.demands := by
  rw [merges.unique (merges_apply base overrides)]
  have made := (overrides.apply base).makes_validate.bind fun _ =>
    Demand.makes_ok (overrides.apply base)
  rw [List.append_nil] at made
  exact made

/-- Nothing but the merged settings is accepted. -/
theorem eq_apply_of_configure (accepted : configure base overrides = .ok settings) :
    settings = overrides.apply base := by
  simp only [configure, bind, Except.bind, pure, Except.pure] at accepted
  split at accepted
  · cases accepted
  · cases accepted
    rfl

/-- Merged settings are accepted exactly if they can be used. -/
theorem configure_eq_ok_iff (merges : Merges base overrides merged) :
    configure base overrides = .ok settings ↔ settings = merged ∧ merged.IsUsable := by
  have mergedEq := merges.unique (merges_apply base overrides)
  have accepts := (makes_configure merges).accepts_iff
  rw [← merged.isUsable_iff] at accepts
  constructor
  · intro accepted
    exact ⟨(eq_apply_of_configure accepted).trans mergedEq.symm, accepts.1 ⟨settings, accepted⟩⟩
  · rintro ⟨rfl, usable⟩
    obtain ⟨accepted, acceptedEq⟩ := accepts.2 usable
    rw [acceptedEq, mergedEq, eq_apply_of_configure acceptedEq]

/-! ## Starting -/

section Start

variable {host : Host} {given : CommandLine.Given}

/-- Where there is a base, it is overridden and checked. -/
theorem settingsOf_of_isBase (isBase : IsBase host given base) :
    settingsOf host given = match configure base (.ofGiven given) with
      | .ok settings => .ok settings
      | .error invalid => .error ["Invalid configuration", invalid.message] := by
  cases isBase with
  | usual unnamed => simp only [settingsOf, unnamed]; rfl
  | loaded named read => simp only [settingsOf, named, read]; rfl

/-- Where there is no base, a file that is named cannot be used. -/
theorem exists_isBase_or_unread (host : Host) (given : CommandLine.Given) :
    (∃ base, IsBase host given base) ∨
      ∃ path error, settingsOf host given = .error (loadCauses path error) := by
  cases named : given.lookup "config" with
  | none => exact .inl ⟨_, .usual named⟩
  | some path =>
    cases read : Settings.load host path with
    | ok base => exact .inl ⟨base, .loaded named read⟩
    | error error =>
      refine .inr ⟨path, error, ?_⟩
      simp only [settingsOf, named, read]
      rfl

/-- Options lead to the settings that a base and their overrides lead to. -/
theorem settingsOf_eq_ok_iff :
    settingsOf host given = .ok settings ↔
      ∃ base, IsBase host given base ∧ configure base (.ofGiven given) = .ok settings := by
  have of_isBase {base : Settings} (isBase : IsBase host given base) :
      settingsOf host given = .ok settings ↔ configure base (.ofGiven given) = .ok settings := by
    rw [settingsOf_of_isBase isBase]
    cases configure base (.ofGiven given) with
    | ok accepted => simp
    | error invalid => simp
  constructor
  · intro accepted
    obtain ⟨base, isBase⟩ | ⟨path, error, refused⟩ := exists_isBase_or_unread host given
    · exact ⟨base, isBase, (of_isBase isBase).1 accepted⟩
    · rw [refused] at accepted
      cases accepted
  · rintro ⟨base, isBase, accepted⟩
    exact (of_isBase isBase).2 accepted

/-- Where there is a base, a start is refused with the report of what is invalid. -/
theorem settingsOf_eq_error_iff (isBase : IsBase host given base) (causes : List String) :
    settingsOf host given = .error causes ↔
      ∃ invalid, configure base (.ofGiven given) = .error invalid ∧
        causes = ["Invalid configuration", invalid.message] := by
  rw [settingsOf_of_isBase isBase]
  cases configure base (.ofGiven given) with
  | ok accepted => simp
  | error invalid => simp [eq_comm]

/-- Settings that are ready are never reported as invalid: it takes the host to fail with them. -/
theorem start_ne_failed (ready : settings.IsReady) (host : Host) (output : List String)
    (invalid : InvalidSetting) : start host settings ≠ .failed output [invalid.message] := by
  intro same
  rcases start_of_isReady ready host with ⟨_, _, none⟩ | ⟨_, _, several⟩
  · rw [same] at none
    cases none
  · rw [same] at several
    exact absurd several (Nat.lt_irrefl 1)

end Start

/-- Overrides and the settings that they are given for lead to merged settings, which are checked in
their stead: they are accepted exactly if they can be used, and otherwise the first thing that is wrong
with them is reported. Options lead to what their overrides lead to. Of accepted settings everything
can be used, and no start with them reports that they are invalid. -/
theorem configuration_is_settled :
    (∀ base overrides, ∃ merged, Merges base overrides merged ∧
      (∀ other, Merges base overrides other → other = merged) ∧
      ((∃ settings, configure base overrides = .ok settings) ↔ merged.IsUsable) ∧
      (∀ settings, configure base overrides = .ok settings ↔
        settings = merged ∧ merged.IsUsable) ∧
      ∀ invalid, configure base overrides = .error invalid ↔
        Demand.FirstUnmet merged.demands invalid) ∧
    (∀ host given,
      (∀ settings, settingsOf host given = .ok settings ↔
        ∃ base, IsBase host given base ∧ configure base (.ofGiven given) = .ok settings) ∧
      ∀ base, IsBase host given base → ∀ causes, settingsOf host given = .error causes ↔
        ∃ invalid, configure base (.ofGiven given) = .error invalid ∧
          causes = ["Invalid configuration", invalid.message]) ∧
    ∀ base overrides settings, configure base overrides = .ok settings →
      settings.IsReady ∧
        ∀ host output (invalid : InvalidSetting),
          start host settings ≠ .failed output [invalid.message] := by
  refine ⟨fun base overrides => ?_, fun host given => ?_, fun base overrides settings accepted => ?_⟩
  · have merges := merges_apply base overrides
    have accepts := (makes_configure merges).accepts_iff
    rw [← Settings.isUsable_iff] at accepts
    exact ⟨_, merges, fun other otherwise => otherwise.unique merges, accepts,
      fun settings => configure_eq_ok_iff merges, makes_configure merges⟩
  · exact ⟨fun settings => settingsOf_eq_ok_iff, fun base isBase => settingsOf_eq_error_iff isBase⟩
  · obtain ⟨rfl, usable⟩ := (configure_eq_ok_iff (merges_apply base overrides)).1 accepted
    exact ⟨usable.isReady, start_ne_failed usable.isReady⟩

/-- Overrides that repair settings, some that spoil them again, and options that leave the usual
settings without the paths of the ports. -/
theorem configuration_is_settled_where_overrides_decide :
    let broken : Settings := {
      serial := ⟨0, .odd⟩
      ports := ⟨some "/dev/a", some " ", none⟩
      monitoring := { logLevel := "loud" } }
    let repair : Overrides := {
      ports := ⟨none, some "/dev/b", some "/dev/c"⟩
      baudrate := some 9600
      logLevel := some "Debug" }
    let repaired : Settings := {
      serial := ⟨9600, .odd⟩
      ports := ⟨some "/dev/a", some "/dev/b", some "/dev/c"⟩
      monitoring := { logLevel := "Debug" } }
    configure broken repair = .ok repaired ∧
      repaired.IsReady ∧ start {} repaired ≠ .failed [] [InvalidSetting.baudrate.message] ∧
      configure repaired { baudrate := some 0, logLevel := some "loud" } = .error .baudrate ∧
      settingsOf {} [("log-level", "debug")] =
        .error ["Invalid configuration", "no tty path configured for external_master"] := by
  intro broken repair repaired
  obtain ⟨merging, options, later⟩ := configuration_is_settled
  have paths : ∀ port, ∃ path, repaired.ports.get port = some path ∧ IsPath path := by
    intro port
    cases port with
    | externalMaster => exact ⟨"/dev/a", rfl, 'a', by decide, by decide⟩
    | slave => exact ⟨"/dev/b", rfl, 'b', by decide, by decide⟩
    | localMaster => exact ⟨"/dev/c", rfl, 'c', by decide, by decide⟩
  have routing : (RoutingSettings.ofRouting .standard).IsUsable :=
    (RoutingSettings.isUsable_ofRouting (by decide) (by decide) (by decide) rfl).1
  have usable : repaired.IsUsable := ⟨paths, by decide, routing, .debug, .name (by decide)⟩
  have accepted : configure broken repair = .ok repaired := by
    obtain ⟨merged, _, unique, _, accepts, _⟩ := merging broken repair
    have repairedEq : repaired = merged := unique _ (merges_apply broken repair)
    exact (accepts repaired).2 ⟨repairedEq, repairedEq ▸ usable⟩
  obtain ⟨ready, unblamed⟩ := later _ _ _ accepted
  refine ⟨accepted, ready, unblamed {} [] .baudrate, ?_, ?_⟩
  · obtain ⟨merged, _, unique, _, _, refuses⟩ :=
      merging repaired { baudrate := some 0, logLevel := some "loud" }
    rw [refuses, ← unique _ (merges_apply _ _)]
    exact .there (paths .externalMaster) (.there (paths .slave) (.there (paths .localMaster)
      (.here (not_not_intro rfl))))
  · obtain ⟨merged, _, unique, _, _, refuses⟩ := merging {} (.ofGiven [("log-level", "debug")])
    have unset : ¬ ∃ path, merged.ports.get .externalMaster = some path ∧ IsPath path := by
      rw [← unique _ (merges_apply _ _)]
      rintro ⟨path, ⟨⟩, _⟩
    exact ((options {} _).2 {} (.usual rfl) _).2
      ⟨.missingPort .externalMaster, (refuses _).2 (.here unset), rfl⟩

end MeterBus.Startup
