import MeterBus.Frame.Cursor

/-!
# The layout of a frame

What the layout of a frame says about the frame: which frames share their bytes, which of them fit
the length byte, and how a frame is made from its body.
-/

namespace MeterBus

namespace Frame

/-- Whether a frame is the one that its own bytes stand for: a long frame has data. -/
def IsCanonical (frame : Frame) : Prop :=
  ∀ c a ci, frame ≠ .long c a ci []

/-- The canonical form of a frame is canonical. -/
theorem isCanonical_canonical (frame : Frame) : frame.canonical.IsCanonical := by
  intro c a ci
  rcases frame with _ | _ | _ | ⟨_, _, _, _ | _⟩ <;> simp [canonical]

/-- A canonical frame is its own canonical form. -/
theorem IsCanonical.canonical_eq {frame : Frame} (canonical : frame.IsCanonical) :
    frame.canonical = frame := by
  rcases frame with _ | _ | _ | ⟨c, a, ci, _ | _⟩
  case long.nil => exact absurd rfl (canonical c a ci)
  all_goals rfl

/-- Every frame made from a body is canonical. -/
theorem isCanonical_ofBody (body : List UInt8) : (ofBody body).IsCanonical := by
  intro c a ci
  match body with
  | [] | [_] | [_, _] | [_, _, _] => simp [ofBody]
  | _ :: _ :: _ :: _ :: _ => simp [ofBody]

/-- A frame is valid if its length byte can count its data. -/
theorem validate_eq_ok_iff {frame : Frame} :
    frame.validate = .ok () ↔ frame.payload.length ≤ maxDataLength := by
  cases frame with
  | long c a ci data =>
    simp only [validate, payload]
    split
    · next tooLong =>
      simp only [reduceCtorEq, false_iff]
      omega
    · next fits =>
      simp only [true_iff]
      omega
  | _ => simp [validate, payload]

/-- The canonical form has the same bytes. -/
@[simp] theorem layout_canonical (frame : Frame) : frame.canonical.layout = frame.layout := by
  rcases frame with _ | _ | _ | ⟨_, _, _, _ | _⟩ <;> rfl

/-- The canonical form is valid if the frame is. -/
@[simp] theorem validate_canonical (frame : Frame) :
    frame.canonical.validate = frame.validate := by
  rcases frame with _ | _ | _ | ⟨_, _, _, _ | _⟩ <;> rfl

/-- The layout of a short frame, by its body. -/
theorem layout_ofBody_short {body : List UInt8} (two : body.length = 2) :
    (ofBody body).layout = shortStart :: (body ++ [checksum body, stopByte]) := by
  match body with
  | [_, _] => rfl

/-- The layout of a frame of variable length, by its body. -/
theorem layout_ofBody_long {body : List UInt8} (covers : headerLength ≤ body.length) :
    (ofBody body).layout =
      longStart :: UInt8.ofNat body.length :: UInt8.ofNat body.length :: longStart ::
        (body ++ [checksum body, stopByte]) := by
  match body with
  | [] | [_] | [_, _] => simp [headerLength] at covers
  | [_, _, _] => rfl
  | c :: a :: ci :: first :: data =>
    have count : (first :: data).length + headerLength = (c :: a :: ci :: first :: data).length :=
      rfl
    simp only [ofBody, layout, opening, Frame.body, closing, lengthByte, count, List.cons_append,
      List.nil_append]

/-- Two bytes make a valid frame. -/
theorem validate_ofBody_short {body : List UInt8} (two : body.length = 2) :
    (ofBody body).validate = .ok () := by
  match body with
  | [_, _] => rfl

/-- As many bytes as a length byte can count make a valid frame. -/
theorem validate_ofBody_long {body : List UInt8} (counted : body.length < 256) :
    (ofBody body).validate = .ok () := by
  match body with
  | [] | [_] | [_, _] | [_, _, _] => rfl
  | c :: a :: ci :: first :: data =>
    rw [validate_eq_ok_iff]
    simp only [List.length_cons] at counted
    simp only [ofBody, payload, List.length_cons, maxDataLength]
    omega

end Frame

end MeterBus
