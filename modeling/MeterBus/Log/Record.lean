/-!
# Log records

A record is a severity, a message and named values. Programs print records as one line each,
either compact or as a JSON object.
-/

namespace MeterBus.Log

/-- The severity of a record, gravest first. -/
inductive Level where
  | error | warn | info | debug | trace
  deriving DecidableEq, Repr, Inhabited

/-- Severities in order: one for errors up to five for traces. -/
def Level.rank : Level → Nat
  | .error => 1
  | .warn => 2
  | .info => 3
  | .debug => 4
  | .trace => 5

/-- The name of a severity in capitals. -/
def Level.name : Level → String
  | .error => "ERROR"
  | .warn => "WARN"
  | .info => "INFO"
  | .debug => "DEBUG"
  | .trace => "TRACE"

/-- The value of a field. -/
inductive Value where
  /-- A text shown as it is. -/
  | text (content : String)
  /-- A text that compact lines put in quotes. -/
  | quoted (content : String)
  /-- A count or a byte. -/
  | number (value : Nat)
  /-- A value that compact lines leave out. -/
  | detail (value : Value)
  deriving DecidableEq, Repr

/-- A value without quotes. -/
def Value.plain : Value → String
  | .text content | .quoted content => content
  | .number value => toString value
  | .detail value => value.plain

/-- One entry of the log. -/
structure Record where
  level : Level
  message : String
  fields : List (String × Value)
  deriving DecidableEq, Repr

end MeterBus.Log
