import MeterBus.Proofs.Frame.RoundTrip
import MeterBus.Proofs.Frame.Verdict

/-!
# The frames in a byte string

Two ways to take a whole byte string apart, without regard to how it was received. `Frame.oneShot`
reads one frame behind the other and stops where none stands. `Frame.scan` goes on behind the next
byte. A scan finds all that one shot finds, and first. What it finds are valid frames, whose wire
bytes are stretches of the byte string one behind the other.
-/

namespace MeterBus

namespace Frame

/-- What stands behind a frame that was read is shorter. -/
theorem length_drop_lt_of_read {bytes : List UInt8} {consumed : Nat} {frame : Frame}
    (accepted : read bytes = .ok (consumed, frame)) :
    (bytes.drop consumed).length < bytes.length := by
  have positive := read_consumed_pos accepted
  have fits := consumed_le_of_read accepted
  rw [List.length_drop]
  omega

/-- The frames in a byte string: where none stands, one byte is left out. -/
def scan : List UInt8 → List Frame
  | [] => []
  | byte :: rest =>
    match _verdict : read (byte :: rest) with
    | .ok (consumed, frame) => frame :: scan ((byte :: rest).drop consumed)
    | .error _ => scan rest
termination_by bytes => bytes.length
decreasing_by
  · exact length_drop_lt_of_read _verdict
  · exact Nat.lt_succ_self rest.length

/-- What one shot at a byte string gives. -/
structure Shot where
  frames : List Frame
  /-- The bytes behind the frames. -/
  rest : List UInt8
  /-- Why no frame was read there. -/
  stop : ReadError
  deriving DecidableEq, Repr

/-- Reads one frame behind the other until none can be read. -/
def oneShot (bytes : List UInt8) : Shot :=
  match _verdict : read bytes with
  | .ok (consumed, frame) =>
    let behind := oneShot (bytes.drop consumed)
    { behind with frames := frame :: behind.frames }
  | .error stop => ⟨[], bytes, stop⟩
termination_by bytes.length
decreasing_by exact length_drop_lt_of_read _verdict

variable {bytes : List UInt8} {consumed : Nat} {frame : Frame} {stop : ReadError}

@[simp] theorem scan_nil : scan [] = [] := by
  rw [scan]

theorem scan_of_ok (accepted : read bytes = .ok (consumed, frame)) :
    scan bytes = frame :: scan (bytes.drop consumed) := by
  cases bytes with
  | nil => simp at accepted
  | cons byte rest =>
    rw [scan]
    split
    · next found foundFrame verdict =>
      rw [accepted] at verdict
      cases verdict
      rfl
    · next reason verdict =>
      rw [accepted] at verdict
      cases verdict

theorem scan_of_error {byte : UInt8} (failed : read (byte :: bytes) = .error stop) :
    scan (byte :: bytes) = scan bytes := by
  rw [scan]
  split
  · next found foundFrame verdict =>
    rw [failed] at verdict
    cases verdict
  · rfl

theorem oneShot_of_ok (accepted : read bytes = .ok (consumed, frame)) :
    oneShot bytes =
      { oneShot (bytes.drop consumed) with
        frames := frame :: (oneShot (bytes.drop consumed)).frames } := by
  rw [oneShot]
  split
  · next found foundFrame verdict =>
    rw [accepted] at verdict
    cases verdict
    rfl
  · next reason verdict =>
    rw [accepted] at verdict
    cases verdict

theorem oneShot_of_error (failed : read bytes = .error stop) :
    oneShot bytes = ⟨[], bytes, stop⟩ := by
  rw [oneShot]
  split
  · next found foundFrame verdict =>
    rw [failed] at verdict
    cases verdict
  · next reason verdict =>
    rw [failed] at verdict
    cases verdict
    rfl

/-- One shot stops where no frame can be read. -/
theorem read_oneShot_rest (bytes : List UInt8) :
    read (oneShot bytes).rest = .error (oneShot bytes).stop := by
  induction bytes using oneShot.induct with
  | case1 bytes consumed frame accepted inductionHypothesis =>
    rw [oneShot_of_ok accepted]
    exact inductionHypothesis
  | case2 bytes stop failed =>
    rw [oneShot_of_error failed]
    exact failed

/-- A scan begins with the frames that one shot finds. -/
theorem oneShot_prefix_scan (bytes : List UInt8) : (oneShot bytes).frames <+: scan bytes := by
  induction bytes using oneShot.induct with
  | case1 bytes consumed frame accepted inductionHypothesis =>
    rw [oneShot_of_ok accepted, scan_of_ok accepted]
    exact List.prefix_cons_inj frame |>.2 inductionHypothesis
  | case2 bytes stop failed =>
    rw [oneShot_of_error failed]
    exact List.nil_prefix

/-- A scan finds valid frames. -/
theorem validate_of_mem_scan (found : frame ∈ scan bytes) : frame.validate = .ok () := by
  induction bytes using scan.induct with
  | case1 => simp at found
  | case2 byte rest consumed first accepted inductionHypothesis =>
    rw [scan_of_ok accepted, List.mem_cons] at found
    obtain rfl | later := found
    · exact validate_of_read accepted
    · exact inductionHypothesis later
  | case3 byte rest stop failed inductionHypothesis =>
    rw [scan_of_error failed] at found
    exact inductionHypothesis found

/-- Whether some pieces stand in a byte string, in this order and apart from each other. -/
inductive Stretches : List (List UInt8) → List UInt8 → Prop where
  | nothing {bytes : List UInt8} : Stretches [] bytes
  | skip {pieces : List (List UInt8)} {byte : UInt8} {rest : List UInt8}
      (later : Stretches pieces rest) : Stretches pieces (byte :: rest)
  | piece {piece rest : List UInt8} {pieces : List (List UInt8)} (later : Stretches pieces rest) :
      Stretches (piece :: pieces) (piece ++ rest)

/-- The frames that a scan finds stand in the byte string one behind the other. -/
theorem stretches_scan (bytes : List UInt8) : Stretches ((scan bytes).map layout) bytes := by
  induction bytes using scan.induct with
  | case1 =>
    rw [scan_nil]
    exact .nothing
  | case2 byte rest consumed first accepted inductionHypothesis =>
    have standing : Stretches (first.layout :: (scan ((byte :: rest).drop consumed)).map layout)
        (first.layout ++ (byte :: rest).drop consumed) := .piece inductionHypothesis
    rw [← eq_layout_append_of_read accepted] at standing
    rw [scan_of_ok accepted]
    exact standing
  | case3 byte rest stop failed inductionHypothesis =>
    rw [scan_of_error failed]
    exact .skip inductionHypothesis

example : (oneShot [0x68, 0xE5]).frames = [] ∧ scan [0x68, 0xE5] = [.single] := by
  decide +kernel

end Frame

end MeterBus
