import MeterBus.Frame.Text
import MeterBus.Proofs.Text.JsonString

/-!
# The text of a frame tells it from all others

The first two letters of a text tell the format. Behind them the fields take two digits each, and
the data, which may have any number of digits, end at a blank. So a text tells its frame and where
it ends, whatever comes behind it.
-/

namespace MeterBus.Frame

variable {first second : Frame} {s t : List Char}

/-- The letters with which the texts of a format begin. -/
def Kind.letters : Kind → List Char
  | .single => ['S', 'I']
  | .short => ['S', 'H']
  | .control => ['C', 'O']
  | .long => ['L', 'O']

/-- Formats differ in their letters. -/
theorem Kind.letters_inj {first second : Kind} (same : first.letters = second.letters) :
    first = second := by
  cases first <;> cases second <;> first | rfl | exact absurd same (by decide)

/-- A text begins with the letters of its format. -/
theorem take_text_append (frame : Frame) (s : List Char) :
    (frame.text.toList ++ s).take 2 = frame.kind.letters := by
  unfold text
  cases frame <;> simp only [String.toList_append, List.append_assoc] <;> rfl

/-- Whatever follows the texts of two frames, the texts are the same only if the frames are. -/
theorem text_append_inj (same : first.text.toList ++ s = second.text.toList ++ t) :
    first = second ∧ s = t := by
  have kinds : first.kind = second.kind := Kind.letters_inj (by
    rw [← take_text_append first s, same, take_text_append second t])
  unfold text at same
  cases first with
  | single =>
    cases second with
    | single => exact ⟨rfl, List.append_cancel_left same⟩
    | _ => cases kinds
  | short c a =>
    cases second with
    | short c' a' =>
      simp only [String.toList_append, List.append_assoc, List.append_cancel_left_eq,
        Hex.byteText_append_inj] at same
      obtain ⟨rfl, rfl, rfl⟩ := same
      exact ⟨rfl, rfl⟩
    | _ => cases kinds
  | control c a ci =>
    cases second with
    | control c' a' ci' =>
      simp only [String.toList_append, List.append_assoc, List.append_cancel_left_eq,
        Hex.byteText_append_inj] at same
      obtain ⟨rfl, rfl, rfl, rfl⟩ := same
      exact ⟨rfl, rfl⟩
    | _ => cases kinds
  | long c a ci data =>
    cases second with
    | long c' a' ci' data' =>
      have blank : " (".toList = [' ', '('] := by decide
      simp only [String.toList_append, List.append_assoc, List.append_cancel_left_eq,
        Hex.byteText_append_inj, Hex.encode, String.toList_ofList, blank, List.cons_append,
        Hex.digits_append_cons_inj (by decide : ' ' ∉ Hex.alphabet)] at same
      obtain ⟨rfl, rfl, rfl, rfl, behind⟩ := same
      exact ⟨rfl, by simpa using behind⟩
    | _ => cases kinds

/-- Frames that are shown alike are the same. -/
theorem text_inj (same : first.text = second.text) : first = second :=
  (text_append_inj (s := []) (t := []) (by rw [same])).1

/-- No character of a text is escaped in a JSON string. -/
theorem isPlain_text (frame : Frame) : JsonString.IsPlain frame.text := by
  -- what is left of each format are the letters between its fields
  unfold text
  cases frame <;>
    simp only [JsonString.isPlain_append, JsonString.isPlain_byteText,
      JsonString.isPlain_encode, JsonString.isPlain_toString, and_true] <;>
    decide

end MeterBus.Frame
