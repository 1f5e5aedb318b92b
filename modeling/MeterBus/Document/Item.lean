/-!
# Documents as trees

A TOML document is a table of items, which may be tables in turn. A table can be written in several
places, but only in certain ways: which ones is decided by how the table came about, so every table
remembers that.

`insertPair`, `openSection` and `openElement` add what one statement of a document says.
-/

namespace MeterBus.Document

/-- How a table came about. -/
inductive Origin where
  /-- A header of its own, or the document itself. -/
  | header
  /-- Headers of tables inside it. -/
  | parent
  /-- Keys with dots. -/
  | dotted
  /-- A value in braces, which is complete. -/
  | braces
  deriving DecidableEq, Repr

/-- What stands under a key. -/
inductive Item where
  | string (content : String)
  | integer (value : Int)
  /-- A number with a fraction or an exponent, or one of the special ones, as it is written. -/
  | float (literal : String)
  | boolean (value : Bool)
  /-- A date, a time of day or both, as it is written. -/
  | moment (literal : String)
  | array (items : List Item)
  | table (origin : Origin) (entries : List (String × Item))
  /-- The tables under headers in double brackets, the last one first. -/
  | tables (elements : List (List (String × Item)))
  deriving Repr, Inhabited

/-- The content of a table: keys and items in the order of their appearance. -/
abbrev Entries := List (String × Item)

/-- The table with the item of a key replaced. -/
def replace (key : String) (item : Item) (entries : Entries) : Entries :=
  entries.map fun (other, old) => (other, if other = key then item else old)

/-- Whether a path may lead through a table. A path of dotted keys stays out of tables that have a
header of their own. -/
def Origin.isOpen (dotted : Bool) : Origin → Bool
  | .header => !dotted
  | .parent | .dotted => true
  | .braces => false

/-- Changes the table at the end of a path. Missing tables on the path are added; in a list of
tables the path leads through the last one. -/
def change (dotted : Bool) (edit : Origin → Entries → Option Entries) :
    List String → Origin → Entries → Option Entries
  | [], origin, entries => edit origin entries
  | key :: path, _, entries =>
    match entries.lookup key with
    | none => do
      let origin := if dotted then Origin.dotted else Origin.parent
      let inner ← change dotted edit path origin []
      return entries ++ [(key, .table origin inner)]
    | some (.table origin inner) =>
      if origin.isOpen dotted then do
        let after ← change dotted edit path origin inner
        return replace key (.table origin after) entries
      else none
    | some (.tables (last :: before)) => do
      let after ← change dotted edit path .header last
      return replace key (.tables (after :: before)) entries
    | some _ => none

/-- Adds a key with its item. The keys in front of it lead to a table that was made by such keys
only; every key is given once. -/
def insertPair (path : List String) (key : String) (item : Item) :
    Origin → Entries → Option Entries :=
  change true
    (fun origin entries =>
      if (origin = .dotted) ↔ path = [] then none
      else if (entries.lookup key).isSome then none
      else some (entries ++ [(key, item)]))
    path

/-- Adds a table that has a header of its own. It may be known as the parent of others already. -/
def openSection (path : List String) (key : String) (document : Entries) : Option Entries :=
  change false
    (fun _ entries =>
      match entries.lookup key with
      | none => some (entries ++ [(key, .table .header [])])
      | some (.table .parent inner) => some (replace key (.table .header inner) entries)
      | some _ => none)
    path .header document

/-- Adds a table to a list of tables. -/
def openElement (path : List String) (key : String) (document : Entries) : Option Entries :=
  change false
    (fun _ entries =>
      match entries.lookup key with
      | none => some (entries ++ [(key, .tables [[]])])
      | some (.tables elements) => some (replace key (.tables ([] :: elements)) entries)
      | some _ => none)
    path .header document

end MeterBus.Document
