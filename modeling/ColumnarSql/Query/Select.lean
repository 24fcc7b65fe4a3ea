/-
Module: ColumnarSql.Query.Select
Purpose: Queries, how they are built, and their SQL.
Main exports:
  Select, Select.addFilter, Select.addTotals, Select.addJoin, Select.sql
-/
import ColumnarSql.Expr.Builder
import ColumnarSql.Query.Clause
import ColumnarSql.Query.Join

namespace ColumnarSql

open Text

/-- A query. -/
structure Select where
  columns : List Expr := []
  distinct : Bool := false
  source : Option String := none
  isFinal : Bool := false
  sample : Option Sample := none
  arrayJoin : Option ArrayJoin := none
  joins : List Join := []
  filter : Option Expr := none
  groupBy : List Expr := []
  totals : Bool := false
  having : Option Expr := none
  orderBy : List OrderItem := []
  limitBy : Option LimitBy := none
  limit : Option UInt64 := none
  offset : Option UInt64 := none
  settings : List Setting := []
deriving Inhabited

namespace Select

/-! ### Building -/

/-- Add a condition on rows. -/
def addFilter (query : Select) (predicate : Expr) : Select :=
  { query with filter := some (Expr.conjoin query.filter predicate) }

/-- Add a condition on groups. -/
def addHaving (query : Select) (predicate : Expr) : Select :=
  { query with having := some (Expr.conjoin query.having predicate) }

/-- Ask for totals over the groups, which there must be. -/
def addTotals (query : Select) : Except Error Select :=
  if query.groupBy.isEmpty then .error (.request .totalsWithoutGroups)
  else .ok { query with totals := true }

/-- Add a join. -/
def addJoin (query : Select) (table : String) (on : Expr) (spec : JoinSpec) : Select :=
  { query with joins := query.joins ++ [⟨table, JoinConstraint.ofExpr on, spec⟩] }

/-- Add a join that keeps the rows of the left side, unless another kind is
asked for. -/
def addOuterJoin (query : Select) (table : String) (on : Expr) (spec : JoinSpec) : Select :=
  query.addJoin table on { spec with kind := some (spec.kind.getD .leftOuter) }

/-! ### SQL -/

/-- What makes a query impossible to write, whatever its expressions are. -/
def check (query : Select) : Except Error Unit :=
  if query.totals && query.groupBy.isEmpty then .error (.request .totalsWithoutGroups)
  else if query.offset.isSome && query.limit.isNone then .error (.compile .offsetWithoutLimit)
  else .ok ()

/-- The select list. -/
def columnsSql (spelling : Spelling) (query : Select) : Fragment :=
  .text (if query.distinct then "SELECT DISTINCT " else "SELECT ") ++
    if query.columns.isEmpty then .text "*" else Expr.labeledListSql spelling query.columns

/-- The table with its modifiers, which need a table. -/
def sourceSql (query : Select) : Fragment :=
  match query.source with
  | some table =>
      .text (" FROM " ++ identifierText table) ++ Fragment.textIf query.isFinal " FINAL" ++
        Fragment.ofOption (fun sample : Sample => .text " " ++ sample.sql) query.sample
  | none =>
      if query.isFinal then .fail (.compile .finalWithoutFrom)
      else if query.sample.isSome then .fail (.compile .sampleWithoutFrom)
      else .empty

/-- The joins, each after a space. -/
def joinsSql (spelling : Spelling) : List Join → Fragment
  | [] => .empty
  | join :: rest => .text " " ++ join.sql spelling ++ joinsSql spelling rest

/-- The GROUP BY clause. -/
def groupSql (spelling : Spelling) (query : Select) : Fragment :=
  if query.groupBy.isEmpty then .empty
  else
    .text " GROUP BY " ++ Expr.listSql spelling query.groupBy ++
      Fragment.textIf query.totals " WITH TOTALS"

/-- The ORDER BY clause. -/
def orderSql (spelling : Spelling) (query : Select) : Fragment :=
  if query.orderBy.isEmpty then .empty
  else .text " ORDER BY " ++ .joinWith ", " (query.orderBy.map (OrderItem.sql spelling))

/-- A query as SQL. -/
def sql (spelling : Spelling) (query : Select) : Fragment :=
  .guarded query.check <|
    columnsSql spelling query ++
    sourceSql query ++
    Fragment.ofOption (fun a : ArrayJoin => .text " " ++ a.sql spelling) query.arrayJoin ++
    joinsSql spelling query.joins ++
    Fragment.ofOption (fun e : Expr => .text " WHERE " ++ e.sql spelling) query.filter ++
    groupSql spelling query ++
    Fragment.ofOption (fun e : Expr => .text " HAVING " ++ e.sql spelling) query.having ++
    orderSql spelling query ++
    Fragment.ofOption (fun l : LimitBy => .text " " ++ l.sql spelling) query.limitBy ++
    Fragment.ofOption (fun n => .text " LIMIT " ++ limitSql query.offset n) query.limit ++
    settingsSql spelling.percentsDoubled query.settings

end Select

end ColumnarSql
