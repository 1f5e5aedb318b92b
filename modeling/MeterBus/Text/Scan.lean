/-!
# Scanning text

A scan takes something off the front of a text or does not apply. Scans are put together with the
operations of their monad; `<|>` tries its second scan where its first does not apply.

The number of characters ahead is kept with them, so that a repetition sees at once whether a scan
has taken something.
-/

namespace MeterBus

namespace Scan

/-- The characters ahead of a scan. -/
structure Input where
  rest : List Char
  /-- Their number. -/
  size : Nat := rest.length
  size_eq : size = rest.length := by rfl

end Scan

/-- A scan for a value: what it finds and what is left, if it applies. -/
abbrev Scan (α : Type) := StateT Scan.Input Option α

namespace Scan

variable {α β : Type}

/-- The next character if it is among the accepted ones. -/
def char (accept : Char → Bool) : Scan Char
  | ⟨c :: rest, size, sizeEq⟩ =>
    if accept c then some (c, ⟨rest, size - 1, by simp [sizeEq]⟩) else none
  | ⟨[], _, _⟩ => none

/-- A given character. -/
def exactly (expected : Char) : Scan Unit := do
  let _ ← char (· == expected)

/-- Given characters, one after the other. -/
def word : List Char → Scan Unit
  | [] => pure ()
  | c :: rest => do
    exactly c
    word rest

/-- The longest run of accepted characters, which may be empty. -/
def span (accept : Char → Bool) : Scan (List Char) := fun input =>
  some (input.rest.takeWhile accept,
    { rest := input.rest.dropWhile accept
      size := input.size - (input.rest.takeWhile accept).length
      size_eq := by
        have whole := congrArg List.length (List.takeWhile_append_dropWhile (p := accept)
          (l := input.rest))
        rw [List.length_append] at whole
        rw [input.size_eq]
        omega })

/-- The longest run of accepted characters, which may not be empty. -/
def run (accept : Char → Bool) : Scan (List Char) := do
  return (← char accept) :: (← span accept)

/-- A given number of accepted characters. -/
def chars (accept : Char → Bool) : Nat → Scan (List Char)
  | 0 => pure []
  | count + 1 => do
    return (← char accept) :: (← chars accept count)

/-- What follows, without taking it. -/
def ahead : Scan Input :=
  fun input => some (input, input)

/-- The end of the text. -/
def finished : Scan Unit := fun input =>
  if input.size = 0 then some ((), input) else none

/-- A value that has to meet a condition. -/
def satisfying (accept : α → Bool) (item : Scan α) : Scan α := do
  let value ← item
  if accept value then pure value else failure

/-- A value that has to stand for another. -/
def mapping (read : α → Option β) (item : Scan α) : Scan β := do
  match read (← item) with
  | some value => pure value
  | none => failure

/-- Repeats a scan for as long as it applies and takes something. The values come behind those found
before, which are given newest first. -/
def repeated (item : Scan α) (found : List α) (input : Input) : List α × Input :=
  match item input with
  | none => (found.reverse, input)
  | some (value, after) =>
    if after.size < input.size then repeated item (value :: found) after
    else (found.reverse, input)
termination_by input.size

/-- As many values as there are, one after the other. -/
def many (item : Scan α) : Scan (List α) :=
  fun input => some (repeated item [] input)

/-- Values with something between each two of them, which may be none at all. -/
def separated (item : Scan α) (separator : Scan Unit) : Scan (List α) :=
  (do
    let first ← item
    let others ← many (do separator; item)
    return first :: others)
  <|> pure []

/-- The value of a text that is scanned to its end. -/
def whole (item : Scan α) (text : List Char) : Option α := do
  let (value, left) ← item { rest := text }
  if left.size = 0 then some value else none

end Scan

end MeterBus
