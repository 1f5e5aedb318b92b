import MeterBus.Text.Digits
import MeterBus.Text.Scan

/-!
# Blanks, comments, strings and keys

The smallest parts of a TOML document.
-/

namespace MeterBus.Document

/-- Whether a character may stand in a comment or a literal string: no control character but the
tab. -/
def isPlain (c : Char) : Bool :=
  c == '\t' || (0x20 ≤ c.toNat && c.toNat != 0x7F)

/-- Whether a character is a blank within a line. -/
def isSpace (c : Char) : Bool := c == ' ' || c == '\t'

/-- Blanks within a line. -/
def spaces : Scan Unit := do
  let _ ← Scan.span isSpace

/-- The end of a line. -/
def newline : Scan Unit :=
  Scan.word ['\n'] <|> Scan.word ['\r', '\n']

/-- A comment, up to the end of its line. -/
def comment : Scan Unit := do
  Scan.exactly '#'
  let _ ← Scan.span isPlain

/-- Blanks, line ends and comments. -/
def gap : Scan Unit := do
  let _ ← Scan.many
    ((do let _ ← Scan.run isSpace) <|> newline <|> (do comment; newline))

/-- What may stand behind a statement: blanks, a comment, and the end of the line or of the text. -/
def lineEnd : Scan Unit := do
  spaces
  comment <|> pure ()
  newline <|> Scan.finished

/-! ## Strings -/

/-- The character with a code point of some digits. -/
def codePoint? (digits : List Char) : Option Char :=
  let value := Digits.value 16 digits
  if value.isValidChar then some (Char.ofNat value) else none

/-- A character given by so many hexadecimal digits. -/
def codePoint (digits : Nat) : Scan Char :=
  Scan.mapping codePoint? (Scan.chars (Digits.isDigit 16) digits)

/-- The character that a letter behind a backslash stands for. -/
def escaped? : Char → Option Char
  | 'b' => some '\x08'
  | 't' => some '\t'
  | 'n' => some '\n'
  | 'f' => some '\x0c'
  | 'r' => some '\r'
  | '"' => some '"'
  | '\\' => some '\\'
  | _ => none

/-- An escape sequence. -/
def escape : Scan Char := do
  Scan.exactly '\\'
  Scan.mapping escaped? (Scan.char fun _ => true)
    <|> (do Scan.exactly 'u'; codePoint 4)
    <|> (do Scan.exactly 'U'; codePoint 8)

/-- Whether a character stands for itself between double quotes. -/
def isUnescaped (c : Char) : Bool := isPlain c && c != '"' && c != '\\'

/-- A string between double quotes. -/
def basicString : Scan String := do
  Scan.exactly '"'
  let pieces ← Scan.many (Scan.run isUnescaped <|> List.singleton <$> escape)
  Scan.exactly '"'
  return String.ofList pieces.flatten

/-- A string between single quotes. -/
def literalString : Scan String := do
  Scan.exactly '\''
  let content ← Scan.span fun c => isPlain c && c != '\''
  Scan.exactly '\''
  return String.ofList content

/-- A line end in a string of several lines. -/
def lineBreak : Scan (List Char) := do
  newline
  return ['\n']

/-- A backslash at the end of a line, with all blanks and line ends behind it. -/
def continuation : Scan (List Char) := do
  Scan.exactly '\\'
  spaces
  newline
  let _ ← Scan.many ((do let _ ← Scan.run isSpace) <|> newline)
  return []

/-- One or two quotes that do not close a string of several lines. -/
def innerQuotes (quote : Char) : Scan (List Char) :=
  Scan.satisfying (·.length ≤ 2) (Scan.run (· == quote))

/-- The three quotes that close a string of several lines, and up to two in front of them that
belong to it. -/
def closingQuotes (quote : Char) : Scan (List Char) :=
  List.drop 3 <$> Scan.satisfying (fun quotes => 3 ≤ quotes.length && quotes.length ≤ 5)
    (Scan.run (· == quote))

/-- A string of several lines, made of some pieces. A line end in front of it is no part of it. -/
def longString (quote : Char) (piece : Scan (List Char)) : Scan String := do
  Scan.word [quote, quote, quote]
  newline <|> pure ()
  let pieces ← Scan.many (piece <|> innerQuotes quote)
  let last ← closingQuotes quote
  return String.ofList (pieces.flatten ++ last)

/-- A string of several lines between double quotes. -/
def longBasicString : Scan String :=
  longString '"'
    (Scan.run isUnescaped <|> continuation <|> (List.singleton <$> escape) <|> lineBreak)

/-- A string of several lines between single quotes. -/
def longLiteralString : Scan String :=
  longString '\'' (Scan.run (fun c => isPlain c && c != '\'') <|> lineBreak)

/-- A string of any kind. -/
def anyString : Scan String :=
  longBasicString <|> basicString <|> longLiteralString <|> literalString

/-! ## Keys -/

/-- Whether a character may stand in a key without quotes. -/
def isBare (c : Char) : Bool :=
  c.isAlphanum || c == '-' || c == '_'

/-- A key without dots and the blanks around it. -/
def simpleKey : Scan String := do
  spaces
  let key ← (String.ofList <$> Scan.run isBare) <|> basicString <|> literalString
  spaces
  return key

/-- The number of parts that a key may have. -/
def keyLimit : Nat := 79

/-- A key of one or more parts with dots between them: all parts but the last, and the last. -/
def key : Scan (List String × String) :=
  Scan.mapping
    (fun parts =>
      if parts.length ≤ keyLimit then parts.getLast?.map (parts.dropLast, ·) else none)
    (Scan.separated simpleKey (Scan.exactly '.'))

end MeterBus.Document
