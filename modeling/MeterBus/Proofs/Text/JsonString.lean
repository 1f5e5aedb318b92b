import MeterBus.Proofs.Text.Hex
import MeterBus.Text.JsonString

/-!
# Text that JSON shows as it is

A text in which no character is escaped stands between the quotes unchanged. Escaped or not, a
string is on one line.
-/

namespace MeterBus.JsonString

variable {content : String} {c : Char}

/-- Whether JSON shows a text as it is. -/
def IsPlain (content : String) : Prop :=
  ∀ c ∈ content.toList, escape c = [c]

/-- A check of the text, as there are far too many characters for one of them all. -/
instance (content : String) : Decidable (IsPlain content) :=
  decidable_of_iff (content.toList.all fun c => escape c == [c]) (by simp [IsPlain])

/-- A text is plain if its parts are. -/
theorem isPlain_append {first second : String} :
    IsPlain (first ++ second) ↔ IsPlain first ∧ IsPlain second := by
  simp only [IsPlain, String.toList_append, List.forall_mem_append]

/-- The digits of bytes are plain. -/
theorem isPlain_encode (bytes : List UInt8) : IsPlain (Hex.encode bytes) := by
  have plain : IsPlain (String.ofList Hex.alphabet) := by decide
  intro c among
  rw [Hex.encode, String.toList_ofList] at among
  exact plain c (by simpa using Hex.mem_alphabet_of_mem_digits among)

/-- The text of a byte is plain. -/
theorem isPlain_byteText (byte : UInt8) : IsPlain (Hex.byteText byte) := by
  have digits : Hex.byteText byte = "0x" ++ Hex.encode [byte] := by
    simp [Hex.byteText, Hex.encode, Hex.digits]
  rw [digits]
  exact isPlain_append.2 ⟨by decide, isPlain_encode [byte]⟩

/-- The decimal digits of a count are plain. -/
theorem isPlain_toString (count : Nat) : IsPlain (toString count) := by
  have plain : ∀ code : Fin 58, 48 ≤ code.val → escape (Char.ofNat code) = [Char.ofNat code] := by
    decide
  intro c among
  rw [Nat.toString_eq_ofList_toDigits, String.toList_ofList] at among
  have digit := Nat.isDigit_of_mem_toDigits (by decide) (by decide) among
  obtain ⟨low, high⟩ := Char.isDigit_iff_toNat.1 digit
  have ofCode := plain ⟨c.toNat, Nat.lt_succ_of_le high⟩ low
  rwa [Char.ofNat_toNat] at ofCode

/-- A plain text stands between the quotes. -/
theorem text_of_isPlain (plain : IsPlain content) : text content = "\"" ++ content ++ "\"" := by
  have same : content.toList.flatMap escape = content.toList := by
    rw [List.flatMap_def, List.map_congr_left plain, ← List.flatMap_def, List.flatMap_singleton']
  rw [text, same, String.ofList_toList]

/-- No character is shown by a line end. -/
theorem lineEnd_notMem_escape (c : Char) : '\n' ∉ escape c := by
  unfold escape
  split
  case h_8 =>
    split
    · next code =>
      have ofDigits : '\n' ∉ Hex.digits [UInt8.ofNat c.toNat] :=
        fun among => absurd (Hex.mem_alphabet_of_mem_digits among) (by decide)
      simpa [Hex.digits] using ofDigits
    · next shown =>
      intro among
      obtain rfl := List.mem_singleton.1 among
      exact shown (by decide)
  all_goals decide

/-- A string is on one line. -/
theorem lineEnd_notMem_text (content : String) : '\n' ∉ (text content).toList := by
  have inside : '\n' ∉ content.toList.flatMap escape := by
    intro among
    obtain ⟨c, _, shown⟩ := List.mem_flatMap.1 among
    exact lineEnd_notMem_escape c shown
  simpa [text, String.toList_append] using inside

/-- A plain text is on one line. -/
theorem IsPlain.lineEnd_notMem (plain : IsPlain content) : '\n' ∉ content.toList :=
  fun among => absurd (plain '\n' among) (by decide)

end MeterBus.JsonString
