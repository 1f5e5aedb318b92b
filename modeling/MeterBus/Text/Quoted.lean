import MeterBus.Text.EscapedRanges

/-!
# Quoted text

Text between double quotes, with everything escaped that would not show as itself.
-/

namespace MeterBus.Quoted

/-- The hexadecimal digits of a code point, without leading zeros. -/
def codePoint (c : Char) : List Char :=
  Nat.toDigits 16 c.toNat

/-- A character as it stands between the quotes. -/
def escape (c : Char) : List Char :=
  match c with
  | '"' => ['\\', '"']
  | '\\' => ['\\', '\\']
  | '\n' => ['\\', 'n']
  | '\r' => ['\\', 'r']
  | '\t' => ['\\', 't']
  | '\x00' => ['\\', '0']
  | c => if isEscaped c then ['\\', 'u', '\x7b'] ++ codePoint c ++ ['\x7d'] else [c]

/-- A text in quotes. -/
def text (content : String) : String :=
  "\"" ++ String.ofList (content.toList.flatMap escape) ++ "\""

end MeterBus.Quoted
