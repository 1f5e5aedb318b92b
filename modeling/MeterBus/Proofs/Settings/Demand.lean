import MeterBus.Settings.Check

/-!
# Checks that are made one after the other

A check of settings makes demands in some order and reports the first that is not met. `Makes` says
this of a check that runs and of a list of demands, and is kept when checks are put together.
-/

namespace MeterBus

/-- Something that settings have to meet, and what is reported where they do not. -/
structure Demand where
  met : Prop
  complaint : InvalidSetting

namespace Demand

variable {α β : Type} {check : Except InvalidSetting α} {demands first later : List Demand}
  {invalid complaint : InvalidSetting} {met : Prop}

/-- Whether all of some demands are met. -/
def AllMet (demands : List Demand) : Prop :=
  ∀ demand ∈ demands, demand.met

/-- The complaint of the first of some demands that is not met. -/
inductive FirstUnmet : List Demand → InvalidSetting → Prop
  | here {demand : Demand} {later : List Demand} (unmet : ¬ demand.met) :
      FirstUnmet (demand :: later) demand.complaint
  | there {demand : Demand} {later : List Demand} {invalid : InvalidSetting} (met : demand.met)
      (unmet : FirstUnmet later invalid) : FirstUnmet (demand :: later) invalid

/-- There is a complaint unless all demands are met. -/
theorem exists_firstUnmet_iff (demands : List Demand) :
    (∃ invalid, FirstUnmet demands invalid) ↔ ¬ AllMet demands := by
  induction demands with
  | nil =>
    constructor
    · rintro ⟨_, ⟨⟩⟩
    · intro unmet
      exact absurd (fun _ among => absurd among List.not_mem_nil) unmet
  | cons demand later inductionHypothesis =>
    rw [AllMet, List.forall_mem_cons, not_and, ← AllMet, ← inductionHypothesis]
    constructor
    · rintro ⟨_, unmet | ⟨_, unmet⟩⟩ met
      · exact absurd met unmet
      · exact ⟨_, unmet⟩
    · intro either
      by_cases met : demand.met
      · obtain ⟨invalid, unmet⟩ := either met
        exact ⟨invalid, .there met unmet⟩
      · exact ⟨demand.complaint, .here met⟩

/-- The first complaint comes from the first of two lists, unless all of its demands are met. -/
theorem firstUnmet_append_iff :
    FirstUnmet (first ++ later) invalid ↔
      FirstUnmet first invalid ∨ (AllMet first ∧ FirstUnmet later invalid) := by
  induction first with
  | nil =>
    have none : ¬ FirstUnmet [] invalid := by rintro ⟨⟩
    simp [AllMet, none]
  | cons demand rest inductionHypothesis =>
    rw [AllMet, List.forall_mem_cons, ← AllMet]
    constructor
    · intro unmet
      cases unmet with
      | here unmet => exact .inl (.here unmet)
      | there met unmet =>
        obtain inRest | ⟨restMet, inLater⟩ := inductionHypothesis.1 unmet
        · exact .inl (.there met inRest)
        · exact .inr ⟨⟨met, restMet⟩, inLater⟩
    · rintro (unmet | ⟨⟨met, restMet⟩, inLater⟩)
      · cases unmet with
        | here unmet => exact .here unmet
        | there met inRest => exact .there met (inductionHypothesis.2 (.inl inRest))
      · exact .there met (inductionHypothesis.2 (.inr ⟨restMet, inLater⟩))

/-- A check that makes some demands: it fails with the complaint of the first that is not met. -/
def Makes (check : Except InvalidSetting α) (demands : List Demand) : Prop :=
  ∀ invalid, check = .error invalid ↔ FirstUnmet demands invalid

/-- A check succeeds exactly if all its demands are met. -/
theorem Makes.accepts_iff (makes : Makes check demands) :
    (∃ value, check = .ok value) ↔ AllMet demands := by
  have refuses : (∃ invalid, check = .error invalid) ↔ ¬ AllMet demands := by
    rw [← exists_firstUnmet_iff]
    exact exists_congr makes
  cases check with
  | ok value => simpa using refuses
  | error invalid => simpa using refuses

/-- A check that cannot fail makes no demands. -/
theorem makes_ok (value : α) : Makes (.ok value) [] := by
  intro invalid
  constructor
  · rintro ⟨⟩
  · rintro ⟨⟩

/-- A check that succeeds if a demand is met and otherwise complains makes that demand. -/
theorem makes_singleton (accepts : met → ∃ value, check = .ok value)
    (refuses : ¬ met → check = .error complaint) : Makes check [⟨met, complaint⟩] := by
  intro invalid
  by_cases isMet : met
  · obtain ⟨value, rfl⟩ := accepts isMet
    constructor
    · rintro ⟨⟩
    · rintro (unmet | ⟨_, ⟨⟩⟩)
      exact absurd isMet unmet
  · rw [refuses isMet]
    constructor
    · rintro ⟨⟩
      exact .here isMet
    · rintro (_ | ⟨_, ⟨⟩⟩)
      rfl

/-- A condition that refuses the settings that do not meet a demand makes the demand. -/
theorem Makes.ite {condition : Prop} [Decidable condition] (makes : Makes check later)
    (refuses : condition ↔ ¬ met) :
    Makes (if condition then .error complaint else check) (⟨met, complaint⟩ :: later) := by
  intro invalid
  split
  · next holds =>
    have unmet := refuses.1 holds
    constructor
    · rintro ⟨⟩
      exact .here unmet
    · rintro (_ | ⟨isMet, _⟩)
      · rfl
      · exact absurd isMet unmet
  · next fails =>
    have isMet := Classical.not_not.1 (mt refuses.2 fails)
    rw [makes invalid]
    constructor
    · exact .there isMet
    · rintro (unmet | ⟨_, unmet⟩)
      · exact absurd isMet unmet
      · exact unmet

/-- A check behind another one makes its demands behind those of the other. -/
theorem Makes.bind {next : α → Except InvalidSetting β} (makes : Makes check first)
    (behind : ∀ value, Makes (next value) later) : Makes (check >>= next) (first ++ later) := by
  intro invalid
  rw [firstUnmet_append_iff, ← makes invalid]
  cases check with
  | ok value =>
    have met : AllMet first := makes.accepts_iff.1 ⟨value, rfl⟩
    simp only [reduceCtorEq, met, true_and, false_or]
    exact behind value invalid
  | error cause =>
    have unmet : ¬ AllMet first := (exists_firstUnmet_iff first).1 ⟨cause, (makes cause).1 rfl⟩
    simp [bind, Except.bind, unmet]

end Demand

end MeterBus
