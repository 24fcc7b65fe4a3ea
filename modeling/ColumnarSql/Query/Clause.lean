/-
Module: ColumnarSql.Query.Clause
Purpose: Clauses of a query that have a form of their own.
Main exports:
  ArrayJoin, Sample, LimitBy, SortOrder, OrderItem, settingsText
-/
import ColumnarSql.Expr.Sql

namespace ColumnarSql

open Text

/-! ### ARRAY JOIN -/

/-- Unfolding of array columns into rows; `left` keeps rows with empty
arrays. -/
structure ArrayJoin where
  columns : List Expr
  left : Bool
deriving Inhabited

/-- The clause as SQL.  It needs at least one column. -/
def ArrayJoin.sql (spelling : Spelling) (clause : ArrayJoin) : Fragment :=
  if clause.columns.isEmpty then
    .fail (.compile .emptyArrayJoin)
  else
    .text (if clause.left then "LEFT ARRAY JOIN " else "ARRAY JOIN ") ++
      Expr.labeledListSql spelling clause.columns

/-! ### SAMPLE -/

/-- A sample of the rows: a fraction or number, and where it starts. -/
structure Sample where
  fraction : Value
  offset : Option Value
deriving Inhabited

/-- The clause as SQL. -/
def Sample.sql (clause : Sample) : Fragment :=
  .text "SAMPLE " ++ .bind none clause.fraction ++
    Fragment.ofOption (fun offset => .text " OFFSET " ++ .bind none offset) clause.offset

/-! ### LIMIT -/

/-- A number of rows, after an offset if there is one, as bound values. -/
def limitSql (offset : Option UInt64) (limit : UInt64) : Fragment :=
  Fragment.ofOption (fun n => .bind none (.ofUInt64 n) ++ .text ", ") offset ++
    .bind none (.ofUInt64 limit)

/-- A limit on the rows that agree on some expressions. -/
structure LimitBy where
  keys : List Expr
  limit : UInt64
  offset : Option UInt64
deriving Inhabited

/-- The clause as SQL.  It needs at least one expression. -/
def LimitBy.sql (spelling : Spelling) (clause : LimitBy) : Fragment :=
  if clause.keys.isEmpty then
    .fail (.compile .emptyLimitBy)
  else
    .text "LIMIT " ++ limitSql clause.offset clause.limit ++ .text " BY " ++
      Expr.listSql spelling clause.keys

/-! ### ORDER BY -/

/-- The direction of sorting. -/
inductive SortOrder where
  | asc
  | desc
deriving DecidableEq, Repr, Inhabited

/-- An item of ORDER BY. -/
structure OrderItem where
  expr : Expr
  direction : Option SortOrder
deriving Inhabited

/-- The words of a direction. -/
def SortOrder.text : SortOrder → String
  | .asc => " ASC"
  | .desc => " DESC"

/-- The item as SQL. -/
def OrderItem.sql (spelling : Spelling) (item : OrderItem) : Fragment :=
  item.expr.sql spelling ++ Fragment.ofOption (fun d : SortOrder => .text d.text) item.direction

/-! ### SETTINGS -/

/-- A setting with its value. -/
abbrev Setting := String × Value

/-- Settings with commas between them; their values are always written out. -/
def settingsText (percentsDoubled : Bool) (settings : List Setting) : String :=
  joinWith ", " (settings.map fun (name, value) => name ++ "=" ++ value.literal percentsDoubled)

/-- The SETTINGS clause, if there are any settings. -/
def settingsSql (percentsDoubled : Bool) (settings : List Setting) : Fragment :=
  if settings.isEmpty then .empty
  else .text (" SETTINGS " ++ settingsText percentsDoubled settings)

end ColumnarSql
