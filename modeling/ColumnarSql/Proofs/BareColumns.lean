/-
Module: ColumnarSql.Proofs.BareColumns
Purpose: Deletions, creations of tables and declarations of engines do not
  depend on the tables that their columns name.
Main exports:
  Expr.withoutTables, Expr.tables, Expr.tables_withoutTables,
  Expr.sql_withoutTables, Engine.sql_withoutTables, CreateTable.sql_withoutTables,
  Statement.compile_withoutTables
-/
import ColumnarSql.Statement.Compile

namespace ColumnarSql

/-! ### Erasing the tables of columns -/

namespace Expr

mutual

/-- An expression whose columns, however deep inside, name no table. -/
def withoutTables : Expr → Expr
  | .column _ name => .column none name
  | .star => .star
  | .literal value => .literal value
  | .bind key value => .bind key value
  | .label e name => .label (withoutTables e) name
  | .function name args => .function name (eachWithoutTables args)
  | .binary left op right => .binary (withoutTables left) op (withoutTables right)
  | .not e => .not (withoutTables e)
  | .isNull e negated => .isNull (withoutTables e) negated
  | .inList e list negated => .inList (withoutTables e) (eachWithoutTables list) negated
  | .distinctFrom left right negated =>
      .distinctFrom (withoutTables left) (withoutTables right) negated
  | .tuple items => .tuple (eachWithoutTables items)
  | .extract field e => .extract field (withoutTables e)
  | .cast e type => .cast (withoutTables e) type
  | .lambda param body => .lambda param (withoutTables body)
  | .raw text => .raw text

/-- Every expression of a list without tables. -/
def eachWithoutTables : List Expr → List Expr
  | [] => []
  | e :: rest => withoutTables e :: eachWithoutTables rest

end

mutual

/-- The tables that the columns of an expression name. -/
def tables : Expr → List String
  | .column table _ => table.toList
  | .star => []
  | .literal _ => []
  | .bind _ _ => []
  | .label e _ => tables e
  | .function _ args => tablesOfEach args
  | .binary left _ right => tables left ++ tables right
  | .not e => tables e
  | .isNull e _ => tables e
  | .inList e list _ => tables e ++ tablesOfEach list
  | .distinctFrom left right _ => tables left ++ tables right
  | .tuple items => tablesOfEach items
  | .extract _ e => tables e
  | .cast e _ => tables e
  | .lambda _ body => tables body
  | .raw _ => []

/-- The tables that the columns of a list of expressions name. -/
def tablesOfEach : List Expr → List String
  | [] => []
  | e :: rest => tables e ++ tablesOfEach rest

end

mutual

/-- No table is named any more once the tables are erased. -/
theorem tables_withoutTables : ∀ e : Expr, e.withoutTables.tables = []
  | .column _ _ => rfl
  | .star => rfl
  | .literal _ => rfl
  | .bind _ _ => rfl
  | .label e _ => by rw [withoutTables, tables, tables_withoutTables e]
  | .function _ args => by rw [withoutTables, tables, tablesOfEach_withoutTables args]
  | .binary left _ right => by
      rw [withoutTables, tables, tables_withoutTables left, tables_withoutTables right]
      rfl
  | .not e => by rw [withoutTables, tables, tables_withoutTables e]
  | .isNull e _ => by rw [withoutTables, tables, tables_withoutTables e]
  | .inList e list _ => by
      rw [withoutTables, tables, tables_withoutTables e, tablesOfEach_withoutTables list]
      rfl
  | .distinctFrom left right _ => by
      rw [withoutTables, tables, tables_withoutTables left, tables_withoutTables right]
      rfl
  | .tuple items => by rw [withoutTables, tables, tablesOfEach_withoutTables items]
  | .extract _ e => by rw [withoutTables, tables, tables_withoutTables e]
  | .cast e _ => by rw [withoutTables, tables, tables_withoutTables e]
  | .lambda _ body => by rw [withoutTables, tables, tables_withoutTables body]
  | .raw _ => rfl

theorem tablesOfEach_withoutTables : ∀ list : List Expr,
    tablesOfEach (eachWithoutTables list) = []
  | [] => rfl
  | e :: rest => by
      rw [eachWithoutTables, tablesOfEach, tables_withoutTables e, tablesOfEach_withoutTables rest]
      rfl

end

/-- Erasing in a list erases in each member. -/
theorem eachWithoutTables_eq_map (list : List Expr) :
    eachWithoutTables list = list.map withoutTables := by
  induction list with
  | nil => rfl
  | cons e rest inductionHypothesis =>
      rw [eachWithoutTables, inductionHypothesis, List.map_cons]

/-! ### Writing expressions

What decides about parentheses and about the form of a list is the shape of an
expression, which stays as it is. -/

/-- Erasing tables changes no operator, so the precedence of an operand stays.
-/
theorem operandPrecedence?_withoutTables (e : Expr) :
    operandPrecedence? e.withoutTables = operandPrecedence? e := by
  cases e with
  | distinctFrom _ _ negated => cases negated <;> rfl
  | _ => rfl

/-- The same operands need parentheses without their tables. -/
theorem needsParens_withoutTables (parent : BinaryOp) (isRight : Bool) (operand : Expr) :
    needsParens parent isRight operand.withoutTables = needsParens parent isRight operand := by
  rw [needsParens, needsParens, operandPrecedence?_withoutTables]

theorem isBinary_withoutTables (e : Expr) : isBinary e.withoutTables = isBinary e := by
  cases e <;> rfl

theorem length_eachWithoutTables (list : List Expr) :
    (eachWithoutTables list).length = list.length := by
  rw [eachWithoutTables_eq_map, List.length_map]

theorem isEmpty_eachWithoutTables (list : List Expr) :
    (eachWithoutTables list).isEmpty = list.isEmpty := by
  cases list <;> rfl

variable {spelling : Spelling}

/-- Where columns are not qualified, the table of a column leaves no trace. -/
theorem columnText_withoutTable (bare : spelling.qualifiesColumns = false)
    (table : Option String) (name : String) :
    columnText spelling none name = columnText spelling table name := by
  cases table with
  | none => rfl
  | some table => simp [columnText, bare]

mutual

/-- Where columns are written by their bare names, their tables do not matter. -/
theorem sql_withoutTables (bare : spelling.qualifiesColumns = false) :
    ∀ e : Expr, e.withoutTables.sql spelling = e.sql spelling
  | .column table name => by
      rw [withoutTables, sql, sql, columnText_withoutTable bare table name]
  | .star => rfl
  | .literal _ => rfl
  | .bind _ _ => rfl
  | .label _ _ => rfl
  | .function name args => by rw [withoutTables, sql, sql, sqlList_withoutTables bare args]
  | .binary left op right => by
      rw [withoutTables, sql, sql, needsParens_withoutTables, needsParens_withoutTables,
        sql_withoutTables bare left, sql_withoutTables bare right]
  | .not e => by rw [withoutTables, sql, sql, isBinary_withoutTables, sql_withoutTables bare e]
  | .isNull e negated => by rw [withoutTables, sql, sql, sql_withoutTables bare e]
  | .inList e list negated => by
      rw [withoutTables, sql, sql, isEmpty_eachWithoutTables, sql_withoutTables bare e,
        sqlList_withoutTables bare list]
  | .distinctFrom left right negated => by
      rw [withoutTables, sql, sql, sql_withoutTables bare left, sql_withoutTables bare right]
  | .tuple items => by
      rw [withoutTables, sql, sql, length_eachWithoutTables, sqlList_withoutTables bare items]
  | .extract field e => by rw [withoutTables, sql, sql, sql_withoutTables bare e]
  | .cast e type => by rw [withoutTables, sql, sql, sql_withoutTables bare e]
  | .lambda param body => by rw [withoutTables, sql, sql, sql_withoutTables bare body]
  | .raw _ => rfl

theorem sqlList_withoutTables (bare : spelling.qualifiesColumns = false) : ∀ list : List Expr,
    sqlList spelling (eachWithoutTables list) = sqlList spelling list
  | [] => rfl
  | e :: rest => by
      rw [eachWithoutTables, sqlList, sqlList, sql_withoutTables bare e,
        sqlList_withoutTables bare rest]

end

/-- Lists of expressions are written alike without their tables. -/
theorem listSql_withoutTables (bare : spelling.qualifiesColumns = false) (list : List Expr) :
    listSql spelling (list.map withoutTables) = listSql spelling list := by
  rw [listSql, listSql, List.map_map]
  congr 1
  apply List.map_congr_left
  intro e _
  exact sql_withoutTables bare e

end Expr

/-! ### Engines -/

/-- An entry whose columns name no table. -/
def Ttl.withoutTables (entry : Ttl) : Ttl :=
  { entry with expr := entry.expr.withoutTables }

namespace Engine

/-- An engine whose columns name no table. -/
def withoutTables (engine : Engine) : Engine where
  name := engine.name
  args := engine.args.map Expr.withoutTables
  partitionBy := engine.partitionBy.map (List.map Expr.withoutTables)
  orderBy := engine.orderBy.map (List.map Expr.withoutTables)
  primaryKey := engine.primaryKey.map (List.map Expr.withoutTables)
  sampleBy := engine.sampleBy.map (List.map Expr.withoutTables)
  ttl := engine.ttl.map Ttl.withoutTables
  settings := engine.settings

/-- The expressions of an engine: its arguments, its keys and those of its TTL
entries. -/
def exprs (engine : Engine) : List Expr :=
  engine.args ++ engine.partitionBy.getD [] ++ engine.orderBy.getD [] ++
    engine.primaryKey.getD [] ++ engine.sampleBy.getD [] ++ engine.ttl.map Ttl.expr

/-- The tables that the columns of an engine name. -/
def tables (engine : Engine) : List String :=
  engine.exprs.flatMap Expr.tables

/-- An absent key has no expressions, whether or not tables are erased. -/
theorem getD_map_withoutTables (slot : Option Key) :
    (slot.map (List.map Expr.withoutTables)).getD [] = (slot.getD []).map Expr.withoutTables := by
  cases slot <;> rfl

/-- Erasing the tables of an engine erases them in each of its expressions. -/
theorem exprs_withoutTables (engine : Engine) :
    engine.withoutTables.exprs = engine.exprs.map Expr.withoutTables := by
  have entries : (engine.ttl.map Ttl.withoutTables).map Ttl.expr =
      (engine.ttl.map Ttl.expr).map Expr.withoutTables := by
    rw [List.map_map, List.map_map]
    rfl
  simp only [exprs, withoutTables, getD_map_withoutTables, entries, List.map_append]

section Writing

variable {spelling : Spelling} (bare : spelling.qualifiesColumns = false)

include bare

/-- A key of an engine is written alike without its tables. -/
theorem keySql_withoutTables (words : String) (slot : Option Key) :
    keySql spelling words (slot.map (List.map Expr.withoutTables)) =
      keySql spelling words slot := by
  cases slot with
  | none => rfl
  | some key =>
      match key with
      | [] => rfl
      | [e] =>
          rw [Option.map_some, List.map_singleton, keySql, keySql, Key.sql, Key.sql,
            Expr.sql_withoutTables bare]
          all_goals simp
      | e :: next :: rest =>
          have list := Expr.listSql_withoutTables bare (e :: next :: rest)
          rw [List.map_cons, List.map_cons] at list
          rw [Option.map_some, List.map_cons, List.map_cons, keySql, keySql, Key.sql, Key.sql, list]
          all_goals simp

/-- Lifetimes are written alike without their tables. -/
theorem ttlListSql_withoutTables (entries : List Ttl) :
    ttlListSql spelling (entries.map Ttl.withoutTables) = ttlListSql spelling entries := by
  rw [ttlListSql, ttlListSql, List.map_map]
  congr 1
  apply List.map_congr_left
  intro entry _
  rw [Function.comp_apply, Ttl.sql, Ttl.sql, Ttl.withoutTables, Expr.sql_withoutTables bare]

/-- The clauses of an engine are written alike without their tables. -/
theorem sql_withoutTables (engine : Engine) :
    engine.withoutTables.sql spelling = engine.sql spelling := by
  simp only [sql, withoutTables, Expr.listSql_withoutTables bare, keySql_withoutTables bare,
    ttlListSql_withoutTables bare, List.isEmpty_map]

end Writing

/-- An engine is declared alike without its tables, since its columns are
bare. -/
theorem declaration_withoutTables (engine : Engine) :
    engine.withoutTables.declaration = engine.declaration := by
  rw [declaration, declaration, sql_withoutTables rfl]

end Engine

/-! ### Statements -/

/-- A deletion whose columns name no table. -/
def Delete.withoutTables (deletion : Delete) : Delete :=
  { deletion with filter := deletion.filter.map Expr.withoutTables }

/-- The tables that the columns of a deletion name. -/
def Delete.tables (deletion : Delete) : List String :=
  deletion.filter.toList.flatMap Expr.tables

/-- A column whose default has columns that name no table. -/
def Column.withoutTables (column : Column) : Column :=
  { column with default := column.default.map Expr.withoutTables }

namespace CreateTable

/-- A creation whose columns, in defaults and in the engine, name no table. -/
def withoutTables (creation : CreateTable) : CreateTable where
  table :=
    { creation.table with
      columns := creation.table.columns.map Column.withoutTables
      engine := creation.table.engine.map Engine.withoutTables }
  ifNotExists := creation.ifNotExists

/-- The tables that the columns of a creation name. -/
def tables (creation : CreateTable) : List String :=
  (creation.table.columns.filterMap Column.default).flatMap Expr.tables ++
    creation.table.engine.toList.flatMap Engine.tables

end CreateTable

theorem flatMap_tables_withoutTables (list : List Expr) :
    (list.map Expr.withoutTables).flatMap Expr.tables = [] := by
  rw [List.flatMap_map, List.flatMap_eq_nil_iff]
  intro e _
  exact Expr.tables_withoutTables e

/-- An engine names no table once the tables are erased. -/
theorem Engine.tables_withoutTables (engine : Engine) : engine.withoutTables.tables = [] := by
  rw [tables, exprs_withoutTables, flatMap_tables_withoutTables]

theorem Delete.tables_withoutTables (deletion : Delete) : deletion.withoutTables.tables = [] := by
  rw [tables, withoutTables, Option.toList_map, flatMap_tables_withoutTables]

theorem CreateTable.tables_withoutTables (creation : CreateTable) :
    creation.withoutTables.tables = [] := by
  have defaults : (creation.table.columns.map Column.withoutTables).filterMap Column.default =
      (creation.table.columns.filterMap Column.default).map Expr.withoutTables := by
    rw [List.filterMap_map, List.map_filterMap]
    rfl
  have engine : (creation.table.engine.map Engine.withoutTables).toList.flatMap Engine.tables =
      [] := by
    cases creation.table.engine with
    | none => rfl
    | some engine => simp [Engine.tables_withoutTables]
  rw [tables, withoutTables, defaults, flatMap_tables_withoutTables, engine, List.append_nil]

section Writing

variable {spelling : Spelling} (bare : spelling.qualifiesColumns = false)

include bare

/-- A deletion is written alike without its tables. -/
theorem Delete.sql_withoutTables (capabilities : Capabilities) (deletion : Delete) :
    deletion.withoutTables.sql capabilities spelling = deletion.sql capabilities spelling := by
  obtain ⟨table, filter⟩ := deletion
  cases filter with
  | none => rfl
  | some filter => simp only [sql, withoutTables, Option.map_some, Expr.sql_withoutTables bare]

/-- A column is written alike if the tables in its default are erased. -/
theorem Column.sql_withoutTables (column : Column) :
    column.withoutTables.sql spelling = column.sql spelling := by
  obtain ⟨name, type, default, comment⟩ := column
  cases default with
  | none => rfl
  | some e =>
      simp only [sql, withoutTables, Option.map_some, Fragment.ofOption,
        Expr.sql_withoutTables bare]

/-- The creation of a table is written alike without the tables in its
expressions. -/
theorem CreateTable.sql_withoutTables (creation : CreateTable) :
    creation.withoutTables.sql spelling = creation.sql spelling := by
  obtain ⟨⟨name, columns, engine⟩, ifNotExists⟩ := creation
  have definitions : (columns.map Column.withoutTables).map (Column.sql spelling) =
      columns.map (Column.sql spelling) := by
    rw [List.map_map]
    apply List.map_congr_left
    intro column _
    exact Column.sql_withoutTables bare column
  cases engine with
  | none => rfl
  | some engine =>
      rw [withoutTables, sql, sql]
      simp only [Option.map_some, List.isEmpty_map, definitions, Engine.sql_withoutTables bare]

end Writing

/-- Erasing the tables of all columns changes nothing in the compiled form of a
deletion or of the creation of a table, faults included, nor in the declaration
of an engine. -/
theorem Statement.compile_withoutTables (capabilities : Capabilities) (options : CompileOptions)
    (deletion : Delete) (creation : CreateTable) (engine : Engine) :
    (compile capabilities options (.delete deletion.withoutTables) =
        compile capabilities options (.delete deletion) ∧
      deletion.withoutTables.tables = []) ∧
    (compile capabilities options (.createTable creation.withoutTables) =
        compile capabilities options (.createTable creation) ∧
      creation.withoutTables.tables = []) ∧
    (engine.withoutTables.declaration = engine.declaration ∧
      engine.withoutTables.tables = []) := by
  refine ⟨⟨?_, deletion.tables_withoutTables⟩, ⟨?_, creation.tables_withoutTables⟩,
    ⟨engine.declaration_withoutTables, engine.tables_withoutTables⟩⟩
  · simp only [compile, Delete.sql_withoutTables]
  · simp only [compile, CreateTable.sql_withoutTables]

end ColumnarSql
