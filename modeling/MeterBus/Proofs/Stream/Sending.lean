import MeterBus.Proofs.Stream.Validity

/-!
# What a line sends

A line on which no write has failed has nothing unsent. A frame that is handed to it goes out in its own
bytes, and nothing goes out before it.
-/

namespace MeterBus

/-- Whether a contact hands over a frame that cannot be written. -/
def Contact.fails : Contact → Bool
  | .write _ _ (.error _) => true
  | _ => false

namespace Line

variable {line after : Line} {contacts : List Contact} {now : Nat} {frame : Frame}
  {bytes : List UInt8}

/-- A line with nothing unsent has no backlog. -/
theorem relieve_of_empty (empty : line.unsent = []) : line.relieve now = (.ok [], line) := by
  rw [relieve, empty]
  rfl

/-- A write that succeeds gives all that was unsent, and leaves nothing. -/
theorem flush_of_ok (flushed : (line.flush now).1 = .ok bytes) :
    bytes = line.unsent ∧ (line.flush now).2.unsent = [] := by
  unfold flush at flushed ⊢
  split at flushed
  · cases flushed
  · cases flushed
    exact ⟨rfl, rfl⟩

/-- Where nothing is unsent, nothing goes out before a frame. -/
theorem relieved_of_empty (empty : line.unsent = []) : (line.send now frame).relieved = [] := by
  rw [send, relieve_of_empty empty]
  dsimp only
  split <;> rfl

/-- A line that is relieved of something has no failure of a write ahead. -/
theorem relieve_of_ok {middle : Line} (relieved : line.relieve now = (.ok bytes, middle)) :
    bytes = [] ∨ middle.faults = [] := by
  unfold relieve at relieved
  split at relieved
  · unfold flush at relieved
    split at relieved
    · cases relieved
    · next faultless =>
      cases relieved
      exact .inr faultless
  · cases relieved
    exact .inl rfl

/-- Where a valid frame is not written, nothing goes out before it either. Faults are those of the very
next writes and no write is pending, so that a write which relieves the line and succeeds leaves no fault
for the one of the frame. -/
theorem relieved_of_failed {cause : LinkError} (valid : frame.validate = .ok ())
    (failed : (line.send now frame).written = .error cause) :
    (line.send now frame).relieved = [] := by
  unfold send at failed ⊢
  split
  · rfl
  · next relieved middle relieving =>
    simp only [relieving, Codec.encode_of_validate _ _ valid] at failed ⊢
    rcases relieve_of_ok relieving with nothing | faultless
    · exact nothing
    · rw [flush, faultless] at failed
      cases failed

/-- Where a frame is written, nothing stays unsent. -/
theorem unsent_of_written (written : (line.send now frame).written = .ok bytes) :
    (line.send now frame).line.unsent = [] := by
  unfold send at written ⊢
  split at written
  · cases written
  · dsimp only at written ⊢
    split at written
    · cases written
    · exact (flush_of_ok written).2

/-- A valid frame that is written goes out in a byte or more. -/
theorem ne_nil_of_written (valid : frame.validate = .ok ())
    (written : (line.send now frame).written = .ok bytes) : bytes ≠ [] := by
  have size := frame.encodedLength_pos
  rw [← frame.length_layout] at size
  unfold send at written
  split at written
  · cases written
  · simp only [Codec.encode_of_validate _ _ valid] at written
    rw [(flush_of_ok written).1]
    exact List.append_ne_nil_of_right_ne_nil _ (List.length_pos_iff.1 size)

/-- Where nothing is unsent, a valid frame that is written goes out in its own bytes. -/
theorem layout_of_written (empty : line.unsent = []) (valid : frame.validate = .ok ())
    (written : (line.send now frame).written = .ok bytes) : bytes = frame.layout := by
  rw [send, relieve_of_empty empty] at written
  simp only [Codec.encode_of_validate _ _ valid, empty, List.nil_append] at written
  exact (flush_of_ok written).1

/-- Contacts of which none fails leave nothing unsent, and write every valid frame in its own bytes. -/
theorem Undergoes.sends (undergoes : line.Undergoes contacts after) (empty : line.unsent = [])
    (unfailing : ∀ contact ∈ contacts, contact.fails = false) :
    after.unsent = [] ∧ ∀ time frame bytes, .write time frame (.ok bytes) ∈ contacts →
      frame.validate = .ok () → bytes = frame.layout := by
  induction contacts generalizing line with
  | nil =>
    obtain rfl : after = line := undergoes
    exact ⟨empty, by simp⟩
  | cons contact others inductionHypothesis =>
    have unfailingThen : ∀ contact ∈ others, contact.fails = false :=
      fun contact among => unfailing contact (List.mem_cons_of_mem _ among)
    cases contact with
    | poll time answer =>
      have emptyThen : (line.poll time).2.1.unsent = [] := empty
      simpa using inductionHypothesis undergoes.2 emptyThen unfailingThen
    | wait start limit finish answer =>
      have emptyThen : (line.await start limit).line.unsent = [] :=
        (awaitAt_sending start line _).1.trans empty
      simpa using inductionHypothesis undergoes.2.2 emptyThen unfailingThen
    | write time frame written =>
      obtain ⟨result, behind⟩ := undergoes
      cases written with
      | error cause => cases unfailing _ (List.mem_cons_self ..)
      | ok bytes =>
        obtain ⟨emptyAfter, laidOut⟩ :=
          inductionHypothesis behind (unsent_of_written result) unfailingThen
        refine ⟨emptyAfter, ?_⟩
        intro otherTime other otherBytes among valid
        rcases List.mem_cons.1 among with same | among
        · cases same
          exact layout_of_written empty valid result
        · exact laidOut otherTime other otherBytes among valid

end Line

end MeterBus
