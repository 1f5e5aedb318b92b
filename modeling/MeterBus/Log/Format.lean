import MeterBus.Log.Record
import MeterBus.Text.JsonString
import MeterBus.Text.Quoted
import MeterBus.Text.Unsigned

/-!
# Log lines

A log shows the records up to some severity, in one of two formats. Lines carry no time: whoever
collects them adds it.
-/

namespace MeterBus.Log

/-- All severities, gravest first. -/
def Level.all : List Level := [.error, .warn, .info, .debug, .trace]

/-- Reads a severity: its rank, or its name in any case. -/
def Level.ofText? (text : String) : Option Level :=
  match Unsigned.parse? 5 text with
  | some rank => Level.all.find? (·.rank = rank)
  | none => Level.all.find? (·.name.toList = text.toList.map Char.toUpper)

/-- The way in which records are shown. -/
inductive Format where
  /-- The severity, the message and the fields, one after the other. -/
  | compact
  /-- A JSON object. -/
  | json
  deriving DecidableEq, Repr, Inhabited

/-- The name of a format in settings. -/
def Format.name : Format → String
  | .compact => "compact"
  | .json => "json"

/-- Reads a format by its name. -/
def Format.ofName? (name : String) : Option Format :=
  [Format.compact, Format.json].find? (·.name = name)

/-- A value in a compact line, if it is shown there. -/
def Value.compact? : Value → Option String
  | .quoted content => some (Quoted.text content)
  | .text content => some content
  | .number value => some (toString value)
  | .detail _ => none

/-- A value in a JSON object. -/
def Value.json : Value → String
  | .number value => toString value
  | .text content | .quoted content => JsonString.text content
  | .detail value => value.json

/-- A name that fills at least five columns, at their right end. -/
def alignRight (name : String) : String :=
  String.ofList (List.replicate (5 - name.length) ' ') ++ name

/-- A record as a compact line. -/
def Record.compact (record : Record) : String :=
  alignRight record.level.name ++ " " ++ record.message
    ++ String.join (record.fields.filterMap fun (name, value) =>
      value.compact?.map fun shown => " " ++ name ++ "=" ++ shown)

/-- A record as a JSON object on one line. -/
def Record.json (record : Record) : String :=
  let member (name value : String) : String := JsonString.text name ++ ":" ++ value
  let fields :=
    member "message" (JsonString.text record.message)
      :: record.fields.map fun (name, value) => member name value.json
  "\x7b" ++ member "level" (JsonString.text record.level.name) ++ ","
    ++ member "fields" ("\x7b" ++ String.intercalate "," fields ++ "\x7d") ++ "\x7d"

/-- A record as a line. -/
def Record.line (record : Record) : Format → String
  | .compact => record.compact
  | .json => record.json

/-- The records that are at least as grave as a severity. -/
def atLeast (limit : Level) (records : List Record) : List Record :=
  records.filter (·.level.rank ≤ limit.rank)

/-- The lines of a log. A compact line goes on behind a line end in one of its values. -/
def lines (limit : Level) (format : Format) (records : List Record) : List String :=
  (atLeast limit records).flatMap fun record => (record.line format).splitOn "\n"

end MeterBus.Log
