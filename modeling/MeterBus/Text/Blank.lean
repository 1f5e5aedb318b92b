/-!
# Blanks around a text

A blank is a character that Unicode calls white space. Settings may be surrounded by blanks, and a
setting of nothing but blanks is as good as none.
-/

namespace MeterBus.Blank

/-- Whether a character is white space. -/
def isBlank (c : Char) : Bool :=
  let n := c.toNat
  (0x9 ≤ n && n ≤ 0xD) || n == 0x20 || n == 0x85 || n == 0xA0 || n == 0x1680
    || (0x2000 ≤ n && n ≤ 0x200A) || n == 0x2028 || n == 0x2029 || n == 0x202F || n == 0x205F
    || n == 0x3000

/-- The characters without the blanks at either end. -/
def trim (characters : List Char) : List Char :=
  ((characters.dropWhile isBlank).reverse.dropWhile isBlank).reverse

/-- Whether a text holds nothing but blanks. -/
def isEmpty (text : String) : Bool :=
  text.toList.all isBlank

/-- Dropping the blanks in front leaves nothing of a text that holds nothing else. -/
theorem dropWhile_isBlank_eq_nil_iff (characters : List Char) :
    characters.dropWhile isBlank = [] ↔ ∀ c ∈ characters, isBlank c := by
  induction characters with
  | nil => simp
  | cons first rest inductionHypothesis =>
    rw [List.dropWhile_cons]
    split
    · next blank => simp [inductionHypothesis, blank]
    · next visible => simp [visible]

/-- Nothing is left between the blanks of a text that holds nothing else. -/
theorem trim_eq_nil_iff (characters : List Char) :
    trim characters = [] ↔ ∀ c ∈ characters, isBlank c := by
  rw [trim, List.reverse_eq_nil_iff, dropWhile_isBlank_eq_nil_iff]
  simp only [List.mem_reverse]
  constructor
  · intro blank
    cases kept : characters.dropWhile isBlank with
    | nil => exact (dropWhile_isBlank_eq_nil_iff characters).1 kept
    | cons first rest =>
      have visible := List.head_dropWhile_not isBlank (kept ▸ List.cons_ne_nil first rest)
      rw [blank _ (List.head_mem _)] at visible
      exact Bool.noConfusion visible
  · intro blank c mem
    rw [(dropWhile_isBlank_eq_nil_iff characters).2 blank] at mem
    exact absurd mem List.not_mem_nil

end MeterBus.Blank
