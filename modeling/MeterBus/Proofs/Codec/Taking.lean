import Mathlib.Algebra.GroupWithZero.Nat
import MeterBus.Proofs.Codec.Finding
import MeterBus.Proofs.Frame.Scan

/-!
# What is taken off a stream

A codec sees only the bytes that have come. `Codec.Takes` says what its work means for the whole
stream, the bytes that are still to come included: some bytes are dropped, each in front of a
verdict that later bytes do not change, and then a frame may be given. A scan of the stream and one
shot at it find the same frame, and then what they find in the bytes that are left.
-/

namespace MeterBus

namespace Codec

/-- Some bytes, on which so many are dropped and a frame may be given, and those that are left. -/
inductive Takes (resync : Bool) : List UInt8 → Nat → Option Frame → List UInt8 → Prop where
  /-- Bytes are dropped and no frame is given. -/
  | nothing {dropped rest} (skips : Skips true resync rest dropped) :
      Takes resync (dropped ++ rest) dropped.length none rest
  /-- The frame behind the dropped bytes is given. -/
  | frame {dropped rest consumed frame} (skips : Skips true resync rest dropped)
      (accepted : Frame.read rest = .ok (consumed, frame)) :
      Takes resync (dropped ++ rest) dropped.length (some frame) (rest.drop consumed)

variable {ended resync : Bool} {dropped rest suffix before after : List UInt8} {count : Nat}
  {given : Option Frame}

/-- What is dropped before the end of the input is dropped whatever comes behind it; what is dropped
at the end has nothing behind it. -/
theorem Skips.extend (skips : Skips ended resync rest dropped)
    (last : ended = true → resync = true → suffix = []) :
    Skips true resync (rest ++ suffix) dropped := by
  induction dropped with
  | nil => trivial
  | cons byte dropped inductionHypothesis =>
    refine ⟨?_, inductionHypothesis skips.2⟩
    have bad := skips.1
    rw [← List.append_assoc, ← List.cons_append]
    cases verdict : Frame.read (byte :: (dropped ++ rest)) with
    | ok accepted => exact (verdict ▸ bad : Drops ended resync (.ok accepted)).elim
    | error reason =>
      rw [verdict] at bad
      cases reason with
      | incomplete missing =>
        rw [last bad.1 bad.2, List.append_nil, verdict]
        exact ⟨rfl, bad.2⟩
      | invalid cause =>
        rw [Frame.read_append_of_invalid verdict suffix]
        exact bad

/-- A scan does not see bytes that are dropped. -/
theorem Skips.scan_eq (skips : Skips ended resync rest dropped) :
    Frame.scan (dropped ++ rest) = Frame.scan rest := by
  induction dropped with
  | nil => rfl
  | cons byte dropped inductionHypothesis =>
    have bad := skips.1
    rw [List.cons_append, ← inductionHypothesis skips.2]
    cases verdict : Frame.read (byte :: (dropped ++ rest)) with
    | ok accepted => exact (verdict ▸ bad : Drops ended resync (.ok accepted)).elim
    | error reason => exact Frame.scan_of_error verdict

/-- A scan finds the frame that is given, and then what is left. -/
theorem Takes.scan_eq (taken : Takes resync before count given after) :
    Frame.scan before = given.toList ++ Frame.scan after := by
  cases taken with
  | nothing skips => exact skips.scan_eq
  | frame skips accepted => rw [skips.scan_eq, Frame.scan_of_ok accepted]; rfl

/-- One shot finds the frame that a strict codec gives, and then what is left. -/
theorem Takes.oneShot_eq (taken : Takes false before count given after) :
    Frame.oneShot before =
      { Frame.oneShot after with frames := given.toList ++ (Frame.oneShot after).frames } := by
  cases taken with
  | nothing skips =>
    rw [skips.eq_nil]
    rfl
  | frame skips accepted =>
    rw [skips.eq_nil, List.nil_append, Frame.oneShot_of_ok accepted]
    rfl

/-- Every byte is dropped, given with a frame, or left. -/
theorem Takes.length_eq (taken : Takes resync before count given after) :
    before.length = count + (given.toList.map Frame.encodedLength).sum + after.length := by
  cases taken with
  | nothing skips => simp
  | @frame dropped rest consumed frame skips accepted =>
    have consumedEq := Frame.consumed_eq_of_read accepted
    have fits := Frame.consumed_le_of_read accepted
    simp only [List.length_append, List.length_drop, Option.toList_some, List.map_cons,
      List.map_nil, List.sum_cons, List.sum_nil]
    omega

/-- The frame of an outcome, if there is one. -/
def Outcome.frame? (outcome : Outcome) : Option Frame :=
  match outcome.result with
  | .ok given => given
  | .error _ => none

/-- What a codec finds in its buffer it takes off the stream. -/
theorem Finding.takes {codec : Codec} {buffer : List UInt8} {outcome : Outcome}
    (found : Finding ended codec buffer dropped rest outcome)
    (last : ended = true → codec.resync = true → suffix = []) :
    Takes codec.resync (buffer ++ suffix) dropped.length outcome.frame?
      (outcome.buffer ++ suffix) := by
  obtain ⟨result, codecAfter, left, events⟩ := outcome
  obtain ⟨rfl, skips, gives, -, -, -⟩ := found
  have extended := skips.extend last
  rw [List.append_assoc]
  cases gives with
  | frame accepted =>
    have fits := Frame.consumed_le_of_read accepted
    simp only [Outcome.frame?]
    rw [← List.drop_append_of_le_length fits]
    exact .frame extended (Frame.read_append_of_ok accepted suffix)
  | nothing empty =>
    rw [empty] at extended ⊢
    exact .nothing extended
  | waiting => exact .nothing extended
  | truncated => exact .nothing extended
  | malformed => exact .nothing extended

end Codec

end MeterBus
