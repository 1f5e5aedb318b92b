import MeterBus.Text.Blank

/-!
# What trimming leaves

Trimming takes the blanks off both ends of a text and nothing else: what is left neither starts nor
ends with a blank, and there is only one such part of a text.
-/

namespace MeterBus.Blank

/-- The part of some characters between the blanks at either end. -/
structure IsTrimmed (characters core : List Char) : Prop where
  surrounded : ∃ front back, characters = front ++ core ++ back ∧
    (∀ c ∈ front, isBlank c) ∧ ∀ c ∈ back, isBlank c
  head : ∀ c ∈ core.head?, ¬ isBlank c
  last : ∀ c ∈ core.getLast?, ¬ isBlank c

variable {characters front core rest : List Char}

/-- Dropping blanks ends at the first character that is none. -/
theorem dropWhile_isBlank_append (blank : ∀ c ∈ front, isBlank c)
    (head : ∀ c ∈ rest.head?, ¬ isBlank c) : (front ++ rest).dropWhile isBlank = rest := by
  rw [List.dropWhile_append_of_pos blank]
  cases rest with
  | nil => rfl
  | cons c rest => exact List.dropWhile_cons_of_neg (head c rfl)

/-- Dropping blanks leaves characters of which the first is none. -/
theorem head?_dropWhile_isBlank (characters : List Char) :
    ∀ c ∈ (characters.dropWhile isBlank).head?, ¬ isBlank c := by
  intro c among
  have visible := List.head?_dropWhile_not isBlank characters
  rw [Option.mem_def.1 among] at visible
  simpa using visible

/-- Trimming gives the part between the blanks. -/
theorem isTrimmed_trim (characters : List Char) : IsTrimmed characters (trim characters) := by
  generalize keptEq : characters.dropWhile isBlank = kept
  generalize backEq : (kept.reverse.takeWhile isBlank).reverse = back
  have trimEq : trim characters = (kept.reverse.dropWhile isBlank).reverse := by rw [trim, keptEq]
  have keptSplit : kept = trim characters ++ back := by
    rw [trimEq, ← backEq, ← List.reverse_append, List.takeWhile_append_dropWhile,
      List.reverse_reverse]
  refine ⟨⟨characters.takeWhile isBlank, back, ?_, ?_, ?_⟩, ?_, ?_⟩
  · rw [List.append_assoc, ← keptSplit, ← keptEq, List.takeWhile_append_dropWhile]
  · exact List.all_eq_true.1 List.all_takeWhile
  · intro c among
    rw [← backEq, List.mem_reverse] at among
    exact List.all_eq_true.1 List.all_takeWhile c among
  · intro c among
    refine head?_dropWhile_isBlank characters c ?_
    rw [keptEq, keptSplit, List.head?_append, Option.mem_def.1 among]
    rfl
  · rw [trimEq, List.getLast?_reverse]
    exact head?_dropWhile_isBlank kept.reverse

/-- There is one part between the blanks, which trimming gives. -/
theorem IsTrimmed.trim_eq (trimmed : IsTrimmed characters core) : trim characters = core := by
  obtain ⟨front, back, rfl, frontBlank, backBlank⟩ := trimmed.surrounded
  cases core with
  | nil =>
    rw [trim_eq_nil_iff]
    simpa [or_imp, forall_and] using ⟨frontBlank, backBlank⟩
  | cons first rest =>
    have dropped : (front ++ (first :: rest ++ back)).dropWhile isBlank = first :: rest ++ back :=
      dropWhile_isBlank_append frontBlank trimmed.head
    have last : ∀ c ∈ (first :: rest).reverse.head?, ¬ isBlank c := by
      rw [List.head?_reverse]
      exact trimmed.last
    rw [trim, List.append_assoc, dropped, List.reverse_append,
      dropWhile_isBlank_append (by simpa using backBlank) last, List.reverse_reverse]

/-- Characters that are no blanks are all that trimming leaves of them. -/
theorem isTrimmed_of_visible (visible : ∀ c ∈ core, ¬ isBlank c) : IsTrimmed core core :=
  ⟨⟨[], [], by simp, by simp, by simp⟩, fun c among => visible c (List.mem_of_mem_head? among),
    fun c among => visible c (List.mem_of_mem_getLast? among)⟩

end MeterBus.Blank
