/-
Module: ColumnarSql.Toml.Basic
Purpose: TOML values and the assembly of documents.
Main exports:
  Toml, Toml.Entries, Toml.assign?, Toml.Line, Toml.assemble?
-/
import ColumnarSql.Double.Basic

namespace ColumnarSql

/-- How a table came to be. -/
inductive TableOrigin where
  /-- It has a header of its own. -/
  | header
  /-- A table inside it has a header. -/
  | parent
  /-- A dotted key goes through it. -/
  | dotted
deriving DecidableEq, Repr, Inhabited

/-- A TOML value.  Tables written inline are complete, while tables of a
document and arrays of such tables may still grow. -/
inductive Toml where
  | string (s : String)
  | integer (n : Int)
  | float (x : Double)
  | boolean (b : Bool)
  /-- A date, a time or both, as written. -/
  | moment (text : String)
  | array (items : List Toml)
  | inlineTable (entries : List (String × Toml))
  | table (origin : TableOrigin) (entries : List (String × Toml))
  | tables (elements : List (List (String × Toml)))
deriving Inhabited

namespace Toml

/-- The entries of a table. -/
abbrev Entries := List (String × Toml)

/-- The value of a key. -/
def get? (entries : Entries) (key : String) : Option Toml :=
  (entries.find? fun entry => entry.1 == key).map Prod.snd

/-- Give a key a new value, in the place of its old one if it has one. -/
def put (entries : Entries) (key : String) (value : Toml) : Entries :=
  match entries with
  | [] => [(key, value)]
  | entry :: rest =>
      if entry.1 == key then (key, value) :: rest else entry :: put rest key value

/-! ### Going down a path

A header goes down to the parent of the table that it names, and a dotted key
to the table that its last part is a key of.  Tables on the way that do not
exist are made.  A dotted key does not go through a table that has a header of
its own.  An array of tables stands for its last element.
-/

/-- Change the entries of the table at the end of a path.  The change is told
how that table came to be. -/
def descend (step : TableOrigin) (change : TableOrigin → Entries → Option Entries) :
    (path : List String) → (origin : TableOrigin) → Entries → Option Entries
  | [], origin, entries => change origin entries
  | key :: path, _, entries =>
      match get? entries key with
      | none =>
          (descend step change path step []).map fun inner =>
            entries ++ [(key, .table step inner)]
      | some (.table origin inner) =>
          if step == .dotted && origin == .header then
            none
          else
            (descend step change path origin inner).map fun inner =>
              put entries key (.table origin inner)
      | some (.tables elements) =>
          match elements.reverse with
          | [] => none
          | last :: earlier =>
              (descend step change path .header last).map fun inner =>
                put entries key (.tables (earlier.reverse ++ [inner]))
      | some _ => none

/-- Add a key that is not there yet. -/
def addNew (key : String) (value : Toml) (entries : Entries) : Option Entries :=
  match get? entries key with
  | some _ => none
  | none => some (entries ++ [(key, value)])

/-- Give a dotted key a value.  The table that the last part is a key of must
itself come from dotted keys. -/
def assign? (path : List String) (key : String) (value : Toml) (entries : Entries) :
    Option Entries :=
  descend .dotted
    (fun origin inner =>
      if path.isEmpty || origin == .dotted then addNew key value inner else none)
    path .header entries

/-- Open the table of a header.  It may only be there as the parent of
others. -/
def openTable? (path : List String) (key : String) (entries : Entries) : Option Entries :=
  descend .parent
    (fun _ inner =>
      match get? inner key with
      | none => some (inner ++ [(key, .table .header [])])
      | some (.table .parent entries) => some (put inner key (.table .header entries))
      | some _ => none)
    path .header entries

/-- Add an element to the array of tables of a header. -/
def openElement? (path : List String) (key : String) (entries : Entries) : Option Entries :=
  descend .parent
    (fun _ inner =>
      match get? inner key with
      | none => some (inner ++ [(key, .tables [[]])])
      | some (.tables elements) => some (put inner key (.tables (elements ++ [[]])))
      | some _ => none)
    path .header entries

/-! ### Documents -/

/-- What a line of a document says.  A path is given without its last part,
which is the key. -/
inductive Line where
  | entry (path : List String) (key : String) (value : Toml)
  | header (path : List String) (key : String)
  | element (path : List String) (key : String)
deriving Inhabited

/-- Add a line to a document whose last header has the path `current`. -/
def addLine? (current : List String) (document : Entries) :
    Line → Option (List String × Entries)
  | .entry path key value =>
      (descend .parent (fun _ inner => assign? path key value inner) current .header
        document).map fun document => (current, document)
  | .header path key =>
      (openTable? path key document).map fun document => (path ++ [key], document)
  | .element path key =>
      (openElement? path key document).map fun document => (path ++ [key], document)

/-- The document that some lines say. -/
def assemble? (lines : List Line) : Option Entries :=
  (lines.foldlM (fun state line => addLine? state.1 state.2 line)
    (([], []) : List String × Entries)).map Prod.snd

end Toml

end ColumnarSql
