import MeterBus.Text.Hex

/-!
# Strings in JSON

Text between double quotes in which quotes, backslashes and control characters are escaped.
-/

namespace MeterBus.JsonString

/-- A character as it stands between the quotes. -/
def escape (c : Char) : List Char :=
  match c with
  | '"' => ['\\', '"']
  | '\\' => ['\\', '\\']
  | '\n' => ['\\', 'n']
  | '\r' => ['\\', 'r']
  | '\t' => ['\\', 't']
  | '\x08' => ['\\', 'b']
  | '\x0c' => ['\\', 'f']
  | c => if c.toNat < 0x20 then ['\\', 'u', '0', '0'] ++ Hex.pair (UInt8.ofNat c.toNat) else [c]

/-- A text in quotes. -/
def text (content : String) : String :=
  "\"" ++ String.ofList (content.toList.flatMap escape) ++ "\""

end MeterBus.JsonString
