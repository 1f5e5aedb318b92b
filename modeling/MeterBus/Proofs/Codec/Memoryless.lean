import MeterBus.Proofs.Codec.Finding

/-!
# Codecs without memory

What a codec remembers saves it looks at its buffer and nothing else. `Codec.Memoryless` says for
each use of a codec what comes of it, from the bytes in the buffer alone: which of them are dropped
is a matter of the verdicts of `Frame.read` on what stands behind each offset. In every history of
uses a codec shows the same results, the same buffers and the same counts of dropped bytes.
-/

namespace MeterBus

namespace Codec

/-- One use of a codec and its buffer. -/
inductive Operation where
  /-- More bytes come in. -/
  | append (content : List UInt8)
  /-- The next frame is asked for. -/
  | decode
  /-- The next frame is asked for at the end of the input. -/
  | decodeEnd
  /-- The bytes of a frame are put into the same buffer. -/
  | encode (frame : Frame)
  deriving DecidableEq, Repr

/-- What can be seen after a use of a codec. -/
structure Sight where
  result : Except LinkError (Option Frame)
  buffer : List UInt8
  discarded : Nat

/-- What can be seen of an outcome. -/
def Outcome.sight (outcome : Outcome) : Sight :=
  ⟨outcome.result, outcome.buffer, outcome.codec.discarded⟩

/-- Uses a codec once. -/
def perform (codec : Codec) (buffer : List UInt8) : Operation → Outcome
  | .append content => ⟨.ok none, codec, buffer ++ content, []⟩
  | .decode => codec.decode buffer
  | .decodeEnd => codec.decodeEnd buffer
  | .encode frame => codec.encode frame buffer

/-- What can be seen of a history of uses. -/
def sights (codec : Codec) (buffer : List UInt8) : List Operation → List Sight
  | [] => []
  | operation :: later =>
    let outcome := codec.perform buffer operation
    outcome.sight :: outcome.codec.sights outcome.buffer later

namespace Memoryless

/-- Whether a verdict is that a frame stands at the front. -/
def isAccepted : Except ReadError (Nat × Frame) → Bool
  | .ok _ => true
  | .error _ => false

/-- Whether a verdict is that no frame can start at the front. -/
def isRefused : Except ReadError (Nat × Frame) → Bool
  | .error (.invalid _) => true
  | _ => false

/-- The least offset behind which the verdict passes a test, or the length of the buffer if there is
none. -/
def leastOffset (test : Except ReadError (Nat × Frame) → Bool) (buffer : List UInt8) : Nat :=
  (List.range buffer.length).findIdx fun offset => test (Frame.read (buffer.drop offset))

/-- Drops bytes up to an offset and takes off the frame that stands there, if any. -/
def takeBehind (offset discarded : Nat) (buffer : List UInt8) : Sight :=
  let rest := buffer.drop offset
  match Frame.read rest with
  | .ok (consumed, frame) => ⟨.ok (some frame), rest.drop consumed, discarded + offset⟩
  | .error _ => ⟨.ok none, rest, discarded + offset⟩

/-- Takes off the frame at the front. A resynchronising codec first drops what is refused. -/
def decode (resync : Bool) (discarded : Nat) (buffer : List UInt8) : Sight :=
  if resync then
    takeBehind (leastOffset (fun verdict => !isRefused verdict) buffer) discarded buffer
  else if buffer = [] then
    ⟨.ok none, buffer, discarded⟩
  else
    match Frame.read buffer with
    | .ok (consumed, frame) => ⟨.ok (some frame), buffer.drop consumed, discarded⟩
    | .error (.incomplete _) => ⟨.ok none, buffer, discarded⟩
    | .error (.invalid cause) => ⟨.error (.malformed cause), buffer, discarded⟩

/-- Takes off the frame at the front when no more bytes will come. A resynchronising codec first
drops everything in front of a frame, a strict one refuses the start of a frame. -/
def decodeEnd (resync : Bool) (discarded : Nat) (buffer : List UInt8) : Sight :=
  if resync then
    takeBehind (leastOffset isAccepted buffer) discarded buffer
  else
    match buffer, Frame.read buffer with
    | _ :: _, .error (.incomplete _) => ⟨.error .truncated, buffer, discarded⟩
    | _, _ => decode resync discarded buffer

/-- Appends the bytes of a valid frame. -/
def encode (frame : Frame) (discarded : Nat) (buffer : List UInt8) : Sight :=
  match frame.validate with
  | .ok () => ⟨.ok none, buffer ++ frame.layout, discarded⟩
  | .error cause => ⟨.error (.unsendable cause), buffer, discarded⟩

/-- What comes of one use. -/
def perform (resync : Bool) (discarded : Nat) (buffer : List UInt8) : Operation → Sight
  | .append content => ⟨.ok none, buffer ++ content, discarded⟩
  | .decode => decode resync discarded buffer
  | .decodeEnd => decodeEnd resync discarded buffer
  | .encode frame => encode frame discarded buffer

/-- What comes of a history of uses. -/
def sights (resync : Bool) (discarded : Nat) (buffer : List UInt8) : List Operation → List Sight
  | [] => []
  | operation :: later =>
    let sight := perform resync discarded buffer operation
    sight :: sights resync sight.discarded sight.buffer later

/-- The least offset is none, or one more than behind the first byte. -/
theorem leastOffset_cons (test : Except ReadError (Nat × Frame) → Bool) (byte : UInt8)
    (rest : List UInt8) :
    leastOffset test (byte :: rest) =
      if test (Frame.read (byte :: rest)) then 0 else leastOffset test rest + 1 := by
  simp only [leastOffset, List.length_cons, List.range_succ_eq_map, List.findIdx_cons,
    List.drop_zero, List.findIdx_map, Function.comp_def, List.drop_succ_cons]
  cases test (Frame.read (byte :: rest)) <;> rfl

/-- What is skipped ends at the least offset behind which the verdict is not one that skips. -/
theorem leastOffset_eq {ended resync : Bool} {test : Except ReadError (Nat × Frame) → Bool}
    {dropped rest : List UInt8}
    (failing : ∀ verdict, Drops ended resync verdict → test verdict = false)
    (skips : Skips ended resync rest dropped) (stops : rest = [] ∨ test (Frame.read rest) = true) :
    leastOffset test (dropped ++ rest) = dropped.length := by
  induction dropped with
  | nil =>
    cases rest with
    | nil => rfl
    | cons byte others =>
      have passing : test (Frame.read (byte :: others)) = true := by simpa using stops
      rw [List.nil_append, leastOffset_cons, if_pos passing]
      rfl
  | cons byte dropped inductionHypothesis =>
    have failed := failing _ skips.1
    rw [List.cons_append, leastOffset_cons, if_neg (by rw [failed]; exact Bool.false_ne_true),
      inductionHypothesis skips.2]
    rfl

end Memoryless

variable {codec : Codec} {buffer dropped rest : List UInt8} {outcome : Outcome}

/-- A resynchronising codec takes off what stands behind the bytes that it finds to be dropped. -/
theorem Finding.sight_eq_takeBehind {ended : Bool}
    (found : Finding ended codec buffer dropped rest outcome) (resync : codec.resync = true) :
    outcome.sight = Memoryless.takeBehind dropped.length codec.discarded buffer := by
  obtain ⟨result, after, left, events⟩ := outcome
  obtain ⟨rfl, _, gives, _, counted, _⟩ := found
  simp only [Outcome.sight, Memoryless.takeBehind, List.drop_left]
  dsimp only at counted gives
  rw [counted]
  cases gives with
  | frame accepted => rw [accepted]
  | nothing empty => rw [empty, Frame.read_nil]
  | waiting some short flowing => rw [short]
  | truncated some short ending strict => simp [resync] at strict
  | malformed refused strict => simp [resync] at strict

/-- Before the end of the input a resynchronising codec stops where it does not refuse. -/
theorem Gives.not_isRefused {rest left : List UInt8} {result : Except LinkError (Option Frame)}
    (gives : Gives false true rest result left) :
    rest = [] ∨ (!Memoryless.isRefused (Frame.read rest)) = true := by
  cases gives with
  | frame accepted => exact .inr (by rw [accepted]; rfl)
  | nothing empty => exact .inl empty
  | waiting some short flowing => exact .inr (by rw [short]; rfl)
  | truncated some short ending strict => exact absurd strict (by simp)
  | malformed refused strict => exact absurd strict (by simp)

/-- At the end of the input a resynchronising codec stops at a frame. -/
theorem Gives.isAccepted {rest left : List UInt8} {result : Except LinkError (Option Frame)}
    (gives : Gives true true rest result left) :
    rest = [] ∨ Memoryless.isAccepted (Frame.read rest) = true := by
  cases gives with
  | frame accepted => exact .inr (by rw [accepted]; rfl)
  | nothing empty => exact .inl empty
  | waiting some short flowing => exact absurd flowing (by simp)
  | truncated some short ending strict => exact absurd strict (by simp)
  | malformed refused strict => exact absurd strict (by simp)

/-- What decoding finds is what a codec without memory finds. -/
theorem Finding.sight_eq_decode (found : Finding false codec buffer dropped rest outcome) :
    outcome.sight = Memoryless.decode codec.resync codec.discarded buffer := by
  cases mode : codec.resync with
  | true =>
    have failing (verdict : Except ReadError (Nat × Frame)) (bad : Drops false true verdict) :
        (!Memoryless.isRefused verdict) = false := by
      rcases verdict with (_ | _) | _
      · exact absurd bad.1 (by simp)
      · rfl
      · exact bad.elim
    have offset := Memoryless.leastOffset_eq failing (mode ▸ found.skips)
      (mode ▸ found.gives).not_isRefused
    rw [Memoryless.decode, if_pos rfl, found.split, offset, ← found.split]
    exact found.sight_eq_takeBehind mode
  | false =>
    obtain ⟨rfl, rfl, counted⟩ := found.of_strict mode
    have gives := found.gives
    obtain ⟨result, after, left, events⟩ := outcome
    dsimp only at gives counted
    rw [Memoryless.decode, if_neg (by simp), Outcome.sight, counted]
    cases gives with
    | frame accepted => rw [if_neg (Frame.ne_nil_of_read_ok accepted), accepted]
    | nothing empty => rw [if_pos empty, empty]
    | waiting some short _ => rw [if_neg some, short]
    | truncated _ _ ending _ => exact absurd ending (by simp)
    | malformed refused _ => rw [if_neg (Frame.ne_nil_of_read_invalid refused), refused]

/-- What decoding finds at the end of the input is what a codec without memory finds. -/
theorem Finding.sight_eq_decodeEnd (found : Finding true codec buffer dropped rest outcome) :
    outcome.sight = Memoryless.decodeEnd codec.resync codec.discarded buffer := by
  cases mode : codec.resync with
  | true =>
    have failing (verdict : Except ReadError (Nat × Frame)) (bad : Drops true true verdict) :
        Memoryless.isAccepted verdict = false := by
      cases verdict with
      | error reason => rfl
      | ok accepted => exact bad.elim
    have offset := Memoryless.leastOffset_eq failing (mode ▸ found.skips)
      (mode ▸ found.gives).isAccepted
    unfold Memoryless.decodeEnd
    rw [if_pos rfl, found.split, offset, ← found.split]
    exact found.sight_eq_takeBehind mode
  | false =>
    obtain ⟨rfl, rfl, counted⟩ := found.of_strict mode
    have gives := found.gives
    obtain ⟨result, after, left, events⟩ := outcome
    dsimp only at gives counted
    unfold Memoryless.decodeEnd
    rw [if_neg (by simp), Outcome.sight, counted]
    cases gives with
    | frame accepted => simp [accepted, Memoryless.decode, Frame.ne_nil_of_read_ok accepted]
    | nothing empty => simp [empty, Memoryless.decode]
    | waiting _ _ flowing => exact absurd flowing (by simp)
    | truncated some short _ _ =>
      cases buffer with
      | nil => exact absurd rfl some
      | cons byte others => simp [short]
    | malformed refused _ => simp [refused, Memoryless.decode, Frame.ne_nil_of_read_invalid refused]

/-- One use of a codec shows what a codec without memory shows, and the memory stays right. -/
theorem perform_sight (remembers : codec.Remembers buffer) (operation : Operation) :
    (codec.perform buffer operation).sight =
        Memoryless.perform codec.resync codec.discarded buffer operation ∧
      (codec.perform buffer operation).codec.Remembers (codec.perform buffer operation).buffer ∧
      (codec.perform buffer operation).codec.resync = codec.resync := by
  cases operation with
  | append content => exact ⟨rfl, remembers.append content, rfl⟩
  | decode =>
    obtain ⟨dropped, rest, found⟩ := decode_finds remembers
    exact ⟨found.sight_eq_decode, found.remembers, found.mode⟩
  | decodeEnd =>
    obtain ⟨dropped, rest, found⟩ := decodeEnd_finds remembers
    exact ⟨found.sight_eq_decodeEnd, found.remembers, found.mode⟩
  | encode frame =>
    simp only [perform, encode, Frame.encode, Cursor.rest_start, Memoryless.perform,
      Memoryless.encode]
    cases validated : frame.validate with
    | error cause => exact ⟨rfl, remembers, rfl⟩
    | ok accepted => exact ⟨rfl, remembers.append frame.layout, rfl⟩

/-- A history of uses shows what it would show without memory. -/
theorem sights_eq_memoryless (remembers : codec.Remembers buffer) (operations : List Operation) :
    codec.sights buffer operations =
      Memoryless.sights codec.resync codec.discarded buffer operations := by
  induction operations generalizing codec buffer with
  | nil => rfl
  | cons operation later inductionHypothesis =>
    obtain ⟨sight, remembering, mode⟩ := perform_sight remembers operation
    rw [sights, Memoryless.sights, inductionHypothesis remembering, mode, ← sight]
    rfl

/-- The memory of a codec is invisible: from a fresh start, in either mode, every history of uses
shows the results, buffers and counts of dropped bytes that the bytes alone determine. -/
theorem memory_is_invisible (operations : List Operation) :
    strict.sights [] operations = Memoryless.sights false 0 [] operations ∧
      resynchronizing.sights [] operations = Memoryless.sights true 0 [] operations :=
  ⟨sights_eq_memoryless (remembers_of_required_eq_zero rfl []) operations,
    sights_eq_memoryless (remembers_of_required_eq_zero rfl []) operations⟩

end Codec

end MeterBus
