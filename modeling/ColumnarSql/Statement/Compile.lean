/-
Module: ColumnarSql.Statement.Compile
Purpose: Statements as SQL text with their parameters and rows.
Main exports:
  CompiledStatement, Insert.compile, Delete.sql, CreateTable.sql,
  DropTable.text, Statement.compile, Expr.compile
-/
import ColumnarSql.ColumnType.Coercion
import ColumnarSql.Server
import ColumnarSql.Statement.Basic

namespace ColumnarSql

open Text

/-- SQL text, the parameters in the order of their placeholders, and the rows
that are sent beside the text. -/
structure CompiledStatement where
  sql : String
  params : List Parameter
  rows : List (List Value)
deriving Inhabited

/-- The value of the parameter with a name. -/
def CompiledStatement.param? (compiled : CompiledStatement) (name : String) : Option Value :=
  (compiled.params.find? fun p => p.name == name).map Parameter.value

/-! ### INSERT -/

namespace Insert

/-- The column that a listed name stands for. -/
def filledColumn (table : Table) (name : String) : Except Error Column :=
  match table.column? name with
  | some column => .ok column
  | none => .error (.compile (.unknownColumn name table.name))

theorem filledColumn_eq_ok_iff {table : Table} {name : String} {column : Column} :
    filledColumn table name = .ok column ↔ table.column? name = some column := by
  rw [filledColumn]
  cases table.column? name <;> simp

/-- The columns that receive values. -/
def filledColumns (insertion : Insert) : Except Error (List Column) :=
  if insertion.columns.isEmpty then .ok insertion.table.columns
  else collect (filledColumn insertion.table) insertion.columns

/-- Convert values for the columns they stand at. -/
def storeValues : List Column → List Value → Except ValueFault (List Value)
  | column :: columns, value :: values =>
      Coercion.consItem ((column.type.coerce value).mapError (.inColumn column.name))
        (storeValues columns values)
  | _, _ => .ok []

/-- Convert a row, which must have one value for each column. -/
def storeRow (columns : List Column) (index : Nat) (row : List Value) :
    Except ValueFault (List Value) :=
  if row.length != columns.length then .error (.rowLength index row.length columns.length)
  else storeValues columns row

/-- Convert rows in order, the first of them with number `index`. -/
def storeRows (columns : List Column) : Nat → List (List Value) →
    Except ValueFault (List (List Value))
  | _, [] => .ok []
  | index, row :: rest =>
      match storeRow columns index row with
      | .error fault => .error fault
      | .ok values =>
          match storeRows columns (index + 1) rest with
          | .error fault => .error fault
          | .ok others => .ok (values :: others)

/-- The statement up to its rows. -/
def headText (table : String) (columns : List Column) : String :=
  "INSERT INTO " ++ identifierText table ++ " (" ++
    joinWith ", " (columns.map fun c => identifierText c.name) ++ ") VALUES"

/-- A row of literals. -/
def rowText (percentsDoubled : Bool) (row : List Value) : String :=
  "(" ++ joinWith ", " (row.map (Value.literal percentsDoubled)) ++ ")"

/-- The rows written behind the statement; nothing if there are none. -/
def rowsText (percentsDoubled : Bool) (rows : List (List Value)) : String :=
  if rows.isEmpty then "" else " " ++ joinWith ", " (rows.map (rowText percentsDoubled))

/-- Compile an insertion.  Rows travel beside the text, or stand in it if bound
values are written as literals. -/
def compile (options : CompileOptions) (insertion : Insert) : Except Error CompiledStatement :=
  match insertion.filledColumns with
  | .error error => .error error
  | .ok columns =>
      if columns.isEmpty then
        .error (.compile (.noInsertColumns insertion.table.name))
      else
        match storeRows columns 0 insertion.rows with
        | .error fault => .error (.value fault)
        | .ok rows =>
            let head := headText insertion.table.name columns
            if options.literalBinds then
              .ok ⟨head ++ rowsText options.style.percentsDoubled rows, [], []⟩
            else
              .ok ⟨head, [], rows⟩

end Insert

/-! ### DELETE -/

/-- A deletion as SQL.  It needs a server that can delete, and a condition,
which speaks about the columns of the one table by their bare names. -/
def Delete.sql (capabilities : Capabilities) (spelling : Spelling) (deletion : Delete) :
    Fragment :=
  if !capabilities.supportsDelete then
    .fail (.compile .deleteUnsupported)
  else
    match deletion.filter with
    | none => .fail (.compile .deleteWithoutFilter)
    | some filter =>
        .text ("ALTER TABLE " ++ identifierText deletion.table ++ " DELETE WHERE ") ++
          filter.sql spelling

/-! ### CREATE TABLE and DROP TABLE -/

/-- The creation of a table as SQL.  It needs an engine and a column. -/
def CreateTable.sql (spelling : Spelling) (creation : CreateTable) : Fragment :=
  match creation.table.engine with
  | none => .fail (.compile (.noEngine creation.table.name))
  | some engine =>
      if creation.table.columns.isEmpty then
        .fail (.compile (.noColumns creation.table.name))
      else
        .text ("CREATE TABLE " ++ (if creation.ifNotExists then "IF NOT EXISTS " else "") ++
            identifierText creation.table.name ++ " (") ++
          .joinWith ", " (creation.table.columns.map (Column.sql spelling)) ++
          .text ") " ++ engine.sql spelling

/-- The removal of a table as SQL. -/
def DropTable.text (removal : DropTable) : String :=
  "DROP TABLE " ++ (if removal.ifExists then "IF EXISTS " else "") ++ identifierText removal.table

/-! ### All statements -/

/-- The compiled form of a fragment. -/
def Fragment.compiled (options : CompileOptions) (fragment : Fragment) :
    Except Error CompiledStatement :=
  match fragment.spell options [] with
  | (.ok sql, params) => .ok ⟨sql, params, []⟩
  | (.error error, _) => .error error

/-- Compile a statement.  In the creation of a table all values are written
out. -/
def Statement.compile (capabilities : Capabilities) (options : CompileOptions)
    (statement : Statement) : Except Error CompiledStatement :=
  let doubled := options.style.percentsDoubled
  match statement with
  | .select query => (query.sql ⟨doubled, true⟩).compiled options
  | .insert insertion => insertion.compile options
  | .delete deletion => (deletion.sql capabilities ⟨doubled, false⟩).compiled options
  | .createTable creation =>
      (creation.sql ⟨doubled, false⟩).compiled { options with literalBinds := true }
  | .dropTable removal => .ok ⟨removal.text, [], []⟩

/-- Compile an expression by itself, with bare column names. -/
def Expr.compile (options : CompileOptions) (e : Expr) : Except Error CompiledStatement :=
  (e.labeledSql ⟨options.style.percentsDoubled, false⟩).compiled options

end ColumnarSql
