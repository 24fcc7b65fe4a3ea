/-
Module: ColumnarSql.Table.Basic
Purpose: Tables and their columns.
Main exports:
  Column, Table, Table.column?, Table.reference, Column.sql
-/
import ColumnarSql.ColumnType.Reader
import ColumnarSql.Expr.Builder
import ColumnarSql.Table.Engine

namespace ColumnarSql

open Text

/-- A column of a table. -/
structure Column where
  name : String
  type : ColumnType
  default : Option Expr := none
  comment : Option String := none
deriving Inhabited

/-- A table. -/
structure Table where
  name : String
  columns : List Column := []
  engine : Option Engine := none
deriving Inhabited

namespace Table

/-- The first column with a name. -/
def column? (table : Table) (name : String) : Option Column :=
  table.columns.find? fun c => c.name == name

/-- Whether there is a column with a name. -/
def hasColumn (table : Table) (name : String) : Bool :=
  (table.column? name).isSome

/-- A reference to a column of the table. -/
def reference (table : Table) (name : String) : Expr :=
  Expr.qualified table.name name

end Table

namespace Column

/-- A column from the name, type name and default expression that the server
reports.  A blank default expression means that there is none. -/
def ofDescription (name typeName defaultExpression : String) : Except Error Column := do
  let type ← ColumnType.parse typeName
  let default := trimmed defaultExpression
  return ⟨name, type, if default.isEmpty then none else some (.raw default), none⟩

/-- The definition of a column as SQL. -/
def sql (spelling : Spelling) (column : Column) : Fragment :=
  .guarded (Expr.checkType column.type) <|
    .text (identifierText column.name ++ " " ++ column.type.render) ++
      Fragment.ofOption (fun e : Expr => .text " DEFAULT " ++ e.sql spelling) column.default ++
      Fragment.ofOption (fun c => .text (" COMMENT " ++ quotedString c)) column.comment

end Column

end ColumnarSql
