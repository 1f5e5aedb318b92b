import MeterBus.Log.Format
import MeterBus.Proofs.Text.Unsigned

/-!
# The texts of a severity

A severity is known by its name, in letters of either case, and by its rank. No text is a name and a
rank at once, so that it does not matter which of them is looked for first.
-/

namespace MeterBus.Log.Level

variable {characters : List Char} {level : Level}

/-- The texts that stand for a severity. -/
inductive Names (level : Level) : List Char → Prop
  | name {characters : List Char} (same : characters.map Char.toUpper = level.name.toList) :
      Names level characters
  | rank {characters : List Char} (written : Unsigned.IsWritten level.rank characters) :
      Names level characters

/-- All severities are listed. -/
theorem mem_all (level : Level) : level ∈ all := by
  cases level <;> decide

/-- Ranks have one digit. -/
theorem rank_le (level : Level) : level.rank ≤ 5 := by
  cases level <;> decide

/-- Severities differ in their ranks. -/
theorem rank_inj {first second : Level} (same : first.rank = second.rank) : first = second := by
  cases first <;> cases second <;> first | rfl | exact absurd same (by decide)

/-- Severities differ in their names. -/
theorem name_inj {first second : Level} (same : first.name.toList = second.name.toList) :
    first = second := by
  cases first <;> cases second <;> first | rfl | exact absurd same (by decide)

/-- By anything in which all severities differ, the one that is looked for is found. -/
theorem find?_all_eq_some_iff {α : Type} [DecidableEq α] {key : Level → α}
    (injective : ∀ {first second}, key first = key second → first = second) (value : α)
    (level : Level) :
    all.find? (key · = value) = some level ↔ key level = value := by
  constructor
  · intro found
    simpa using List.find?_some found
  · intro same
    cases found : all.find? (key · = value) with
    | none => exact absurd same (by simpa using List.find?_eq_none.1 found level (mem_all level))
    | some other =>
      have otherSame : key other = value := by simpa using List.find?_some found
      rw [injective (otherSame.trans same.symm)]

/-- A count is no name: it ends in a digit. -/
theorem map_toUpper_ne_name {count : Nat} (small : count < 10)
    (written : Unsigned.IsWritten count characters) (level : Level) :
    characters.map Char.toUpper ≠ level.name.toList := by
  have apart : ∀ count : Fin 10, ∀ level ∈ all,
      some (Hex.digit count).toUpper ≠ level.name.toList.getLast? := by
    decide
  obtain ⟨sign, zeros, _, rfl⟩ := written
  intro same
  have lastEq := congrArg List.getLast? same
  rw [← List.append_assoc, List.map_append, List.map_singleton, List.getLast?_concat] at lastEq
  exact apart ⟨count, small⟩ level (mem_all level) lastEq

/-- A severity is read from the texts that stand for it. -/
theorem ofText?_eq_some_iff {text : String} :
    ofText? text = some level ↔ Names level text.toList := by
  have small : 5 < 10 := by decide
  unfold ofText?
  cases parsed : Unsigned.parse? 5 text with
  | some count =>
    obtain ⟨fits, written⟩ := (Unsigned.parse?_eq_some_iff small).1 parsed
    simp only [find?_all_eq_some_iff rank_inj count level]
    constructor
    · rintro rfl
      exact .rank written
    · rintro (same | ofRank)
      · exact absurd same (map_toUpper_ne_name (by omega) written level)
      · have again := (Unsigned.parse?_eq_some_iff small).2 ⟨rank_le level, ofRank⟩
        exact Option.some.inj (again.symm.trans parsed)
  | none =>
    simp only [find?_all_eq_some_iff name_inj (text.toList.map Char.toUpper) level]
    constructor
    · intro same
      exact .name same.symm
    · rintro (same | ofRank)
      · exact same.symm
      · have again := (Unsigned.parse?_eq_some_iff small).2 ⟨rank_le level, ofRank⟩
        rw [parsed] at again
        cases again

example : ofText? "Warn" = some .warn ∧ ofText? "+02" = some .warn ∧ ofText? "6" = none := by decide

end MeterBus.Log.Level
