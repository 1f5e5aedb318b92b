import MeterBus.Proofs.Settings.Demand
import MeterBus.Proofs.Text.Blank
import MeterBus.Proofs.Text.Hex

/-!
# Which routing settings can be used

Routing settings are checked once, before anything is done with them. `Settings.routing_is_faithful`
says which are accepted, what is made of them, and what is reported of the others. Every routing that
has sense can be set.
-/

namespace MeterBus

/-- Whether an address stands for one slave. -/
def IsUnicast (address : UInt8) : Prop :=
  address ≠ 0xFE ∧ address ≠ 0xFF

instance : DecidablePred IsUnicast := fun address =>
  inferInstanceAs (Decidable (address ≠ 0xFE ∧ address ≠ 0xFF))

/-- The digits of the eight bytes that a text gives, which blanks may surround. -/
structure IsSelection (text : String) (digits : List Char) : Prop where
  trimmed : Blank.IsTrimmed text.toList digits
  length : digits.length = 16
  hexadecimal : ∀ c ∈ digits, c ∈ Hex.alphabet

/-- A digit is no blank. -/
theorem not_isBlank_of_mem_alphabet {c : Char} (among : c ∈ Hex.alphabet) : ¬ Blank.isBlank c := by
  have checked : Hex.alphabet.all fun c => !Blank.isBlank c := by decide
  have visible := List.all_eq_true.1 checked c among
  simpa using visible

/-- The digits that a text gives are those of eight bytes, which are written with them in lower
case. -/
theorem IsSelection.exists_bytes {text : String} {digits : List Char}
    (selection : IsSelection text digits) :
    ∃ bytes, Hex.ofDigits? digits = some bytes ∧ bytes.length = 8 ∧
      Hex.digits bytes = digits.map Char.toLower := by
  have even : digits.length % 2 = 0 := by rw [selection.length]
  obtain ⟨bytes, read⟩ := (Hex.exists_ofDigits?_iff digits).2 ⟨even, selection.hexadecimal⟩
  have written := Hex.digits_of_ofDigits? read
  have length := congrArg List.length written
  rw [Hex.length_digits, List.length_map, selection.length] at length
  exact ⟨bytes, read, by omega, written⟩

namespace RoutingSettings

/-- What routing settings have to meet. -/
structure IsUsable (given : RoutingSettings) : Prop where
  slaveAddress : IsUnicast given.slaveAddress
  localAddress : IsUnicast given.localAddress
  responseTimeout : 0 < given.responseTimeout
  localSelectData : ∃ digits, IsSelection given.localSelectData digits

/-- What routing settings have to meet, in the order in which it is checked. -/
def demands (given : RoutingSettings) : List Demand :=
  [⟨IsUnicast given.slaveAddress, .address "slave_address" given.slaveAddress⟩,
    ⟨IsUnicast given.localAddress, .address "local_address" given.localAddress⟩,
    ⟨0 < given.responseTimeout, .timeout⟩,
    ⟨∃ digits, IsSelection given.localSelectData digits, .selectData⟩]

/-- The routing that some settings describe: the data are written, in lower case, with the digits of
the settings. -/
structure Describes (given : RoutingSettings) (routing : Routing) : Prop where
  slaveAddress : routing.slaveAddress = given.slaveAddress
  localAddress : routing.localAddress = given.localAddress
  responseTimeout : routing.responseTimeout = given.responseTimeout
  length : routing.localSelectData.length = 8
  localSelectData : ∃ digits, IsSelection given.localSelectData digits ∧
    Hex.digits routing.localSelectData = digits.map Char.toLower

/-- The settings that hold the values of a routing. -/
def ofRouting (routing : Routing) : RoutingSettings where
  slaveAddress := routing.slaveAddress
  localAddress := routing.localAddress
  localSelectData := Hex.encode routing.localSelectData
  responseTimeout := routing.responseTimeout

/-- Settings are usable if they meet all that is checked. -/
theorem isUsable_iff (given : RoutingSettings) : given.IsUsable ↔ Demand.AllMet given.demands := by
  simp only [Demand.AllMet, demands, List.forall_mem_cons, List.not_mem_nil, false_imp_iff,
    implies_true, and_true]
  constructor
  · rintro ⟨ofSlave, ofLocal, timeout, data⟩
    exact ⟨ofSlave, ofLocal, timeout, data⟩
  · rintro ⟨ofSlave, ofLocal, timeout, data⟩
    exact ⟨ofSlave, ofLocal, timeout, data⟩

/-- Settings describe one routing at most. -/
theorem Describes.unique {given : RoutingSettings} {routing other : Routing}
    (described : given.Describes routing) (otherwise : given.Describes other) : routing = other := by
  obtain ⟨digits, selection, written⟩ := described.localSelectData
  obtain ⟨others, selected, writtenToo⟩ := otherwise.localSelectData
  have same : digits = others := by
    rw [← selection.trimmed.trim_eq, selected.trimmed.trim_eq]
  have data : routing.localSelectData = other.localSelectData :=
    Hex.digits_inj (by rw [written, writtenToo, same])
  cases routing
  cases other
  rw [Routing.mk.injEq]
  exact ⟨described.slaveAddress.trans otherwise.slaveAddress.symm,
    described.localAddress.trans otherwise.localAddress.symm, data,
    described.responseTimeout.trans otherwise.responseTimeout.symm⟩

/-- The settings that hold the values of a routing that has sense are usable and describe it. -/
theorem isUsable_ofRouting {routing : Routing} (slaveAddress : IsUnicast routing.slaveAddress)
    (localAddress : IsUnicast routing.localAddress) (responseTimeout : 0 < routing.responseTimeout)
    (length : routing.localSelectData.length = 8) :
    (ofRouting routing).IsUsable ∧ (ofRouting routing).Describes routing := by
  have selection : IsSelection (Hex.encode routing.localSelectData)
      (Hex.digits routing.localSelectData) := by
    rw [Hex.encode]
    obtain ⟨_, hexadecimal⟩ :=
      (Hex.exists_ofDigits?_iff _).1 ⟨_, Hex.ofDigits?_digits routing.localSelectData⟩
    refine ⟨?_, by rw [Hex.length_digits, length], hexadecimal⟩
    rw [String.toList_ofList]
    exact Blank.isTrimmed_of_visible fun c among => not_isBlank_of_mem_alphabet (hexadecimal c among)
  have lower : Hex.digits routing.localSelectData =
      (Hex.digits routing.localSelectData).map Char.toLower :=
    Hex.digits_of_ofDigits? (Hex.ofDigits?_digits _)
  exact ⟨⟨slaveAddress, localAddress, responseTimeout, _, selection⟩,
    ⟨rfl, rfl, rfl, length, _, selection, lower⟩⟩

end RoutingSettings

namespace Settings

/-- The addresses that are refused are those that stand for every slave. -/
theorem isBroadcast_iff (address : UInt8) :
    AddressField.isBroadcast address = true ↔ ¬ IsUnicast address := by
  rw [IsUnicast, AddressField.isBroadcast, Bool.or_eq_true, beq_iff_eq, beq_iff_eq,
    Decidable.not_and_iff_or_not, Decidable.not_not, Decidable.not_not]
  rfl

/-- The data that a text gives are written, in lower case, with the digits between its blanks. -/
theorem selectData?_eq_some_iff {text : String} {data : List UInt8} :
    selectData? text = some data ↔
      data.length = 8 ∧
        ∃ digits, IsSelection text digits ∧ Hex.digits data = digits.map Char.toLower := by
  simp only [selectData?, Option.filter_eq_some_iff, decide_eq_true_eq]
  constructor
  · rintro ⟨read, eight⟩
    have written := Hex.digits_of_ofDigits? read
    obtain ⟨_, hexadecimal⟩ := (Hex.exists_ofDigits?_iff _).1 ⟨data, read⟩
    have length := congrArg List.length written
    rw [Hex.length_digits, eight, List.length_map] at length
    exact ⟨eight, _, ⟨Blank.isTrimmed_trim _, length.symm, hexadecimal⟩, written⟩
  · rintro ⟨eight, digits, selection, written⟩
    obtain ⟨bytes, read, _, writtenToo⟩ := selection.exists_bytes
    have same : data = bytes := Hex.digits_inj (written.trans writtenToo.symm)
    rw [selection.trimmed.trim_eq, read, same]
    exact ⟨rfl, same ▸ eight⟩

example : selectData? " 87932768FFffffFF\n" =
    some [0x87, 0x93, 0x27, 0x68, 0xFF, 0xFF, 0xFF, 0xFF] := by decide

example : selectData? "87932768 FFFFFFFF" = none := by decide

/-- A text gives data if there are sixteen digits between its blanks. -/
theorem exists_selectData?_iff (text : String) :
    (∃ data, selectData? text = some data) ↔ ∃ digits, IsSelection text digits := by
  constructor
  · rintro ⟨data, given⟩
    obtain ⟨_, digits, selection, _⟩ := selectData?_eq_some_iff.1 given
    exact ⟨digits, selection⟩
  · rintro ⟨digits, selection⟩
    obtain ⟨bytes, _, eight, written⟩ := selection.exists_bytes
    exact ⟨bytes, selectData?_eq_some_iff.2 ⟨eight, digits, selection, written⟩⟩

/-- The routing is checked as the demands say. -/
theorem makes_checkedRouting (settings : Settings) :
    Demand.Makes settings.checkedRouting settings.routing.demands := by
  let given := settings.routing
  have timeout : given.responseTimeout = 0 ↔ ¬ 0 < given.responseTimeout := by omega
  refine .ite (.ite (.ite (Demand.makes_singleton (fun met => ?_) fun unmet => ?_) timeout)
    (isBroadcast_iff _)) (isBroadcast_iff _)
  · obtain ⟨data, dataEq⟩ := (exists_selectData?_iff given.localSelectData).2 met
    rw [dataEq]
    exact ⟨_, rfl⟩
  · have none : selectData? given.localSelectData = none := by
      rw [Option.eq_none_iff_forall_ne_some]
      intro data dataEq
      exact unmet ((exists_selectData?_iff _).1 ⟨data, dataEq⟩)
    rw [none]

/-- What is accepted is described by the settings. -/
theorem describes_of_checkedRouting {settings : Settings} {routing : Routing}
    (accepted : settings.checkedRouting = .ok routing) : settings.routing.Describes routing := by
  simp only [checkedRouting] at accepted
  split at accepted
  · cases accepted
  · split at accepted
    · cases accepted
    · split at accepted
      · cases accepted
      · split at accepted
        · cases accepted
        · next data dataEq =>
          obtain ⟨length, written⟩ := selectData?_eq_some_iff.1 dataEq
          cases accepted
          exact ⟨rfl, rfl, rfl, length, written⟩

/-- Routing settings are accepted exactly if they are usable, and what is made of them is the one
routing that they describe; otherwise the first thing that is wrong with them is reported. A routing
that has sense comes back from the settings that hold its values, whatever else is set. -/
theorem routing_is_faithful :
    (∀ settings : Settings,
      ((∃ routing, settings.checkedRouting = .ok routing) ↔ settings.routing.IsUsable) ∧
      (∀ routing, settings.checkedRouting = .ok routing ↔
        settings.routing.IsUsable ∧ settings.routing.Describes routing) ∧
      ∀ invalid, settings.checkedRouting = .error invalid ↔
        Demand.FirstUnmet settings.routing.demands invalid) ∧
    ∀ (settings : Settings) (routing : Routing), IsUnicast routing.slaveAddress →
      IsUnicast routing.localAddress → 0 < routing.responseTimeout →
      routing.localSelectData.length = 8 →
      { settings with routing := .ofRouting routing }.checkedRouting = .ok routing := by
  have accepted_iff (settings : Settings) :
      (∃ routing, settings.checkedRouting = .ok routing) ↔ settings.routing.IsUsable := by
    rw [settings.makes_checkedRouting.accepts_iff, RoutingSettings.isUsable_iff]
  have of_described (settings : Settings) (routing : Routing) (usable : settings.routing.IsUsable)
      (described : settings.routing.Describes routing) : settings.checkedRouting = .ok routing := by
    obtain ⟨other, accepted⟩ := (accepted_iff settings).2 usable
    rw [accepted, described.unique (describes_of_checkedRouting accepted)]
  refine ⟨fun settings => ⟨accepted_iff settings, fun routing => ⟨?_, ?_⟩,
    settings.makes_checkedRouting⟩, ?_⟩
  · intro accepted
    exact ⟨(accepted_iff settings).1 ⟨routing, accepted⟩, describes_of_checkedRouting accepted⟩
  · rintro ⟨usable, described⟩
    exact of_described settings routing usable described
  · intro settings routing slaveAddress localAddress responseTimeout length
    obtain ⟨usable, described⟩ :=
      RoutingSettings.isUsable_ofRouting slaveAddress localAddress responseTimeout length
    exact of_described { settings with routing := .ofRouting routing } routing usable described

/-- A routing at the limits of what has sense, whose data have letters among their digits. -/
theorem routing_is_faithful_at_limits :
    let routing : Routing := ⟨0x00, 0xFD, [0xAB, 0, 0, 0, 0, 0, 0, 0xFF], UInt64.size - 1⟩
    IsUnicast routing.slaveAddress ∧ IsUnicast routing.localAddress ∧ 0 < routing.responseTimeout ∧
      routing.localSelectData.length = 8 ∧
      (RoutingSettings.ofRouting routing).localSelectData = "ab000000000000ff" ∧
      Settings.checkedRouting { routing := .ofRouting routing } = .ok routing := by
  intro routing
  have slaveAddress : IsUnicast routing.slaveAddress := by decide
  have localAddress : IsUnicast routing.localAddress := by decide
  have responseTimeout : 0 < routing.responseTimeout := by decide
  exact ⟨slaveAddress, localAddress, responseTimeout, rfl, by decide,
    routing_is_faithful.2 {} routing slaveAddress localAddress responseTimeout rfl⟩

end Settings

end MeterBus
