import MeterBus.Document.Number

/-!
# Dates and times

A date of the calendar, a time of day, or both, perhaps with a distance from universal time.
-/

namespace MeterBus.Document

/-- A number of so many digits within two limits. -/
def field (width low high : Nat) : Scan Nat :=
  Scan.satisfying (fun value => low ≤ value && value ≤ high)
    (Digits.value 10 <$> Scan.chars (Digits.isDigit 10) width)

/-- The number of days in a month. -/
def daysIn (year month : Nat) : Nat :=
  match month with
  | 2 => if year % 4 = 0 ∧ (year % 100 ≠ 0 ∨ year % 400 = 0) then 29 else 28
  | 4 | 6 | 9 | 11 => 30
  | _ => 31

/-- A date. -/
def date : Scan Unit := do
  let year ← field 4 0 9999
  Scan.exactly '-'
  let month ← field 2 1 12
  Scan.exactly '-'
  let _ ← field 2 1 (daysIn year month)

/-- A time of day; its last minute may have a leap second. -/
def timeOfDay : Scan Unit := do
  let _ ← field 2 0 23
  Scan.exactly ':'
  let _ ← field 2 0 59
  Scan.exactly ':'
  let _ ← field 2 0 60
  (do Scan.exactly '.'; let _ ← Scan.run (Digits.isDigit 10)) <|> pure ()

/-- A distance from universal time. -/
def offset : Scan Unit :=
  Scan.exactly 'Z' <|> Scan.exactly 'z' <|> do
    Scan.exactly '+' <|> Scan.exactly '-'
    let _ ← field 2 0 23
    Scan.exactly ':'
    let _ ← field 2 0 59

/-- What may follow a date: a time of day and a distance from universal time. -/
def timeBehindDate : Scan Unit := do
  Scan.exactly 'T' <|> Scan.exactly 't' <|> Scan.exactly ' '
  timeOfDay
  offset <|> pure ()

/-- A date, a time of day or both. -/
def moment : Scan Item :=
  Item.moment <$> spelling ((do date; timeBehindDate <|> pure ()) <|> timeOfDay)

end MeterBus.Document
