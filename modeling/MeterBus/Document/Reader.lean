import MeterBus.Document.Lexeme
import MeterBus.Document.Moment

/-!
# Reading documents

`Document.parse?` reads a TOML 1.0 document. A document is a list of statements; each adds to the
tree what it says, or contradicts what is there already.
-/

namespace MeterBus.Document

/-! ## Values -/

/-- A value without parts. -/
def scalar : Scan Item :=
  Item.string <$> anyString
    <|> (do Scan.word ['t', 'r', 'u', 'e']; return .boolean true)
    <|> (do Scan.word ['f', 'a', 'l', 's', 'e']; return .boolean false)
    <|> moment <|> float <|> integer

/-- Values in brackets, on one or several lines. A comma may stand behind the last one. -/
def array (value : Scan Item) : Scan Item := do
  Scan.exactly '['
  let items ← Scan.separated (do gap; let item ← value; gap; return item) (Scan.exactly ',')
  if !items.isEmpty then Scan.exactly ',' <|> pure ()
  gap
  Scan.exactly ']'
  return .array items

/-- A key, the sign of equality and a value. -/
def pair (value : Scan Item) : Scan ((List String × String) × Item) := do
  let key ← key
  Scan.exactly '='
  spaces
  return (key, ← value)

/-- The table that some pairs make. -/
def tableOf? (pairs : List ((List String × String) × Item)) : Option Entries :=
  pairs.foldlM (fun entries ((path, key), item) => insertPair path key item .braces entries) []

/-- Pairs in braces, on one line. -/
def bracedTable (value : Scan Item) : Scan Item := do
  Scan.exactly '\x7b'
  let pairs ← Scan.separated (do let pair ← pair value; spaces; return pair) (Scan.exactly ',')
  spaces
  Scan.exactly '\x7d'
  match tableOf? pairs with
  | some entries => return .table .braces entries
  | none => failure

/-- The number of brackets and braces that a value may stand in, its own included. -/
def nestingLimit : Nat := 79

/-- A value with so many brackets and braces inside each other at most. -/
def valueWithin : Nat → Scan Item
  | 0 => scalar
  | depth + 1 => array (valueWithin depth) <|> bracedTable (valueWithin depth) <|> scalar

/-- A value. -/
def value : Scan Item := valueWithin nestingLimit

/-! ## Statements -/

/-- What one line or more of a document say. -/
inductive Statement where
  /-- A key of the current table has a value. -/
  | pair (path : List String) (key : String) (item : Item)
  /-- A table begins. -/
  | openTable (path : List String) (key : String)
  /-- A further table of a list of tables begins. -/
  | openListed (path : List String) (key : String)

/-- A line that says nothing. -/
def emptyLine : Scan (Option Statement) := do
  newline <|> (do comment; newline <|> Scan.finished)
  return none

/-- A header of a list of tables. -/
def listedHeader : Scan (Option Statement) := do
  Scan.word ['[', '[']
  let (path, key) ← key
  Scan.word [']', ']']
  lineEnd
  return some (.openListed path key)

/-- A header of a table. -/
def header : Scan (Option Statement) := do
  Scan.exactly '['
  let (path, key) ← key
  Scan.exactly ']'
  lineEnd
  return some (.openTable path key)

/-- A key with its value. -/
def assignment : Scan (Option Statement) := do
  let ((path, key), item) ← pair value
  lineEnd
  return some (.pair path key item)

/-- A statement or a line that says nothing, with the blanks behind it. -/
def statement : Scan (Option Statement) := do
  let statement ← emptyLine <|> listedHeader <|> header <|> assignment
  spaces
  return statement

/-- The statements of a document, behind a mark of its encoding if there is one. -/
def statements : Scan (List Statement) := do
  Scan.exactly '\ufeff' <|> pure ()
  spaces
  let found ← Scan.many statement
  return found.filterMap id

/-! ## Documents -/

/-- The part of a document that has been read. -/
structure Draft where
  document : Entries := []
  /-- The keys that lead to the current table. -/
  current : List String := []

/-- Adds what a statement says, unless that contradicts what is there. -/
def Draft.add (draft : Draft) : Statement → Option Draft
  | .pair path key item => do
    let document ←
      change false (fun origin entries => insertPair path key item origin entries) draft.current
        .header draft.document
    return { draft with document := document }
  | .openTable path key => do
    return { document := ← openSection path key draft.document, current := path ++ [key] }
  | .openListed path key => do
    return { document := ← openElement path key draft.document, current := path ++ [key] }

/-- Reads a document. -/
def parse? (text : String) : Option Entries := do
  let found ← Scan.whole statements text.toList
  let draft ← found.foldlM Draft.add {}
  return draft.document

end MeterBus.Document
