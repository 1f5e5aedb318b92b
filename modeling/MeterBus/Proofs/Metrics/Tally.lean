import Mathlib.Data.String.Basic
import MeterBus.Metrics.Counters

/-!
# Counters are counts of the trace

The samples of a counter that counts per label are kept in the order of their labels, each label
once. `Metrics.count_ofTrace` says that the value of every counter is the number of activities in the
trace that it counts.
-/

namespace MeterBus

namespace Labelled

variable {label other : String} {amount : Nat} {samples : Labelled}

/-- Whether the labels ascend, so that each comes once. -/
def Ascending (samples : Labelled) : Prop :=
  samples.Pairwise (·.1 < ·.1)

/-- Only the label of the amount is new behind an addition. -/
theorem mem_add {sample : String × Nat} (among : sample ∈ add label amount samples) :
    sample.1 = label ∨ ∃ old ∈ samples, sample.1 = old.1 := by
  induction samples with
  | nil =>
    rw [add, List.mem_singleton] at among
    rw [among]
    exact .inl rfl
  | cons first rest inductionHypothesis =>
    obtain ⟨head, value⟩ := first
    rw [add] at among
    split at among
    · rcases List.mem_cons.1 among with rfl | behind
      · exact .inr ⟨_, List.mem_cons_self .., rfl⟩
      · exact .inr ⟨sample, List.mem_cons_of_mem _ behind, rfl⟩
    · split at among
      · rcases List.mem_cons.1 among with rfl | behind
        · exact .inl rfl
        · exact .inr ⟨sample, behind, rfl⟩
      · rcases List.mem_cons.1 among with rfl | behind
        · exact .inr ⟨_, List.mem_cons_self .., rfl⟩
        · rcases inductionHypothesis behind with same | ⟨old, oldAmong, same⟩
          · exact .inl same
          · exact .inr ⟨old, List.mem_cons_of_mem _ oldAmong, same⟩

/-- An addition keeps the labels in order. -/
theorem ascending_add (ascending : samples.Ascending) (label : String) (amount : Nat) :
    (add label amount samples).Ascending := by
  induction samples with
  | nil => exact List.pairwise_singleton ..
  | cons first rest inductionHypothesis =>
    obtain ⟨head, value⟩ := first
    obtain ⟨below, ascendingRest⟩ := List.pairwise_cons.1 ascending
    rw [add]
    split
    · exact List.pairwise_cons.2 ⟨below, ascendingRest⟩
    · next differs =>
      split
      · next before =>
        refine List.pairwise_cons.2 ⟨?_, ascending⟩
        intro sample among
        rcases List.mem_cons.1 among with rfl | behind
        · exact before
        · exact before.trans (below sample behind)
      · next notBefore =>
        refine List.pairwise_cons.2 ⟨?_, inductionHypothesis ascendingRest⟩
        intro sample among
        rcases mem_add among with same | ⟨old, oldAmong, same⟩
        · rw [same]
          exact lt_of_le_of_ne (not_lt.1 notBefore) (Ne.symm differs)
        · rw [same]
          exact below old oldAmong

@[simp] theorem value_nil (label : String) : value label [] = 0 := rfl

@[simp] theorem value_cons_self (label : String) (held : Nat) (rest : Labelled) :
    value label ((label, held) :: rest) = held := by
  simp [value]

theorem value_cons_of_ne {head : String} (ne : other ≠ head) (held : Nat) (rest : Labelled) :
    value other ((head, held) :: rest) = value other rest := by
  rw [value, List.lookup_cons, beq_false_of_ne ne]
  rfl

/-- A label that comes before all others has no value yet. -/
theorem value_eq_zero_of_before (before : ∀ sample ∈ samples, label < sample.1) :
    value label samples = 0 := by
  have absent : samples.lookup label = none := by
    rw [List.lookup_eq_none_iff]
    intro sample among
    simpa using (before sample among).ne
  rw [value, absent]
  rfl

/-- An addition counts for its label alone. -/
theorem value_add (ascending : samples.Ascending) :
    value other (add label amount samples)
      = value other samples + if label = other then amount else 0 := by
  induction samples with
  | nil =>
    rw [add, value_nil]
    by_cases same : label = other
    · rw [same, value_cons_self, if_pos rfl, Nat.zero_add]
    · rw [value_cons_of_ne (Ne.symm same), value_nil, if_neg same]
  | cons first rest inductionHypothesis =>
    obtain ⟨head, held⟩ := first
    obtain ⟨below, ascendingRest⟩ := List.pairwise_cons.1 ascending
    rw [add]
    split
    · next atHead =>
      subst atHead
      by_cases same : label = other
      · rw [← same, value_cons_self, value_cons_self, if_pos rfl]
      · rw [value_cons_of_ne (Ne.symm same), value_cons_of_ne (Ne.symm same), if_neg same,
          Nat.add_zero]
    · next notHead =>
      split
      · next before =>
        by_cases same : label = other
        · have unseen : value label ((head, held) :: rest) = 0 := by
            apply value_eq_zero_of_before
            intro sample among
            rcases List.mem_cons.1 among with rfl | behind
            · exact before
            · exact before.trans (below sample behind)
          rw [← same, value_cons_self, unseen, if_pos rfl, Nat.zero_add]
        · rw [value_cons_of_ne (Ne.symm same), if_neg same, Nat.add_zero]
      · by_cases found : other = head
        · rw [found, value_cons_self, value_cons_self, if_neg notHead, Nat.add_zero]
        · rw [value_cons_of_ne found, value_cons_of_ne found]
          exact inductionHypothesis ascendingRest

end Labelled

namespace Metrics

variable {metrics : Metrics}

/-- The value of a counter. -/
def count (counter : Counter) (metrics : Metrics) : Nat :=
  match counter with
  | .framesForwarded => metrics.framesForwarded
  | .framesReceived port => metrics.framesReceived.value port
  | .framesSent port => metrics.framesSent.value port
  | .localAcks => metrics.localAcks
  | .responseTimeouts => metrics.responseTimeouts
  | .unexpectedFrames port => metrics.unexpectedFrames.value port

/-- Whether the samples of every counter are in the order of their labels. -/
structure Ascending (metrics : Metrics) : Prop where
  framesReceived : metrics.framesReceived.Ascending
  framesSent : metrics.framesSent.Ascending
  unexpectedFrames : metrics.unexpectedFrames.Ascending

/-- An addition keeps the samples in order. -/
theorem ascending_add (ascending : metrics.Ascending) (counter : Counter) (amount : Nat) :
    (metrics.add counter amount).Ascending := by
  obtain ⟨received, sent, unexpected⟩ := ascending
  cases counter with
  | framesReceived port => exact ⟨Labelled.ascending_add received .., sent, unexpected⟩
  | framesSent port => exact ⟨received, Labelled.ascending_add sent .., unexpected⟩
  | unexpectedFrames port => exact ⟨received, sent, Labelled.ascending_add unexpected ..⟩
  | _ => exact ⟨received, sent, unexpected⟩

/-- An addition counts for its counter alone. -/
theorem count_add (ascending : metrics.Ascending) (counter other : Counter) (amount : Nat) :
    (metrics.add counter amount).count other
      = metrics.count other + if counter = other then amount else 0 := by
  obtain ⟨received, sent, unexpected⟩ := ascending
  cases counter <;> cases other <;>
    simp [count, add, Labelled.value_add received, Labelled.value_add sent,
      Labelled.value_add unexpected]

/-- The counters of a trace are in order, and each counts the activities that count for it. -/
theorem count_ofTrace (counter : Counter) (trace : List Entry) :
    (ofTrace trace).count counter
      = trace.countP fun entry => entry.activity.counter? = some counter := by
  have kept : (ofTrace trace).Ascending ∧ (ofTrace trace).count counter
      = trace.countP fun entry => entry.activity.counter? = some counter := by
    induction trace with
    | nil =>
      constructor
      · exact ⟨.nil, .nil, .nil⟩
      · cases counter <;> rfl
    | cons entry trace inductionHypothesis =>
      obtain ⟨ascending, counted⟩ := inductionHypothesis
      rw [List.countP_cons, ← counted]
      cases counts : entry.activity.counter? with
      | none =>
        have unfolded : ofTrace (entry :: trace) = ofTrace trace := by simp [ofTrace, counts]
        simpa [unfolded] using ascending
      | some other =>
        have unfolded : ofTrace (entry :: trace) = (ofTrace trace).add other 1 := by
          simp [ofTrace, counts]
        simpa [unfolded, count_add ascending] using ascending_add ascending other 1
  exact kept.2

end Metrics

end MeterBus
