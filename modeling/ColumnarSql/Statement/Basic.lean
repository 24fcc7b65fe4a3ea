/-
Module: ColumnarSql.Statement.Basic
Purpose: Statements of SQL.
Main exports:
  Insert, Delete, CreateTable, DropTable, Statement
-/
import ColumnarSql.Query.Select
import ColumnarSql.Table.Basic

namespace ColumnarSql

/-- Insertion of rows into the listed columns, or into all columns if none are
listed. -/
structure Insert where
  table : Table
  columns : List String := []
  rows : List (List Value) := []
deriving Inhabited

/-- Deletion of the rows that satisfy a condition. -/
structure Delete where
  table : String
  filter : Option Expr := none
deriving Inhabited

/-- Creation of a table. -/
structure CreateTable where
  table : Table
  ifNotExists : Bool := false
deriving Inhabited

/-- Removal of a table. -/
structure DropTable where
  table : String
  ifExists : Bool := false
deriving DecidableEq, Repr, Inhabited

/-- A statement. -/
inductive Statement where
  | select (query : Select)
  | insert (insertion : Insert)
  | delete (deletion : Delete)
  | createTable (creation : CreateTable)
  | dropTable (removal : DropTable)
deriving Inhabited

/-- Add a condition on the rows to delete. -/
def Delete.addFilter (deletion : Delete) (predicate : Expr) : Delete :=
  { deletion with filter := some (Expr.conjoin deletion.filter predicate) }

end ColumnarSql
