/-
Module: ColumnarSql.Json.StatementForm
Purpose: The JSON form of statements, engines, compiled statements and
options.
Main exports:
  Engine.toJson, Engine.ofJson?, Statement.toJson, Statement.ofJson?,
  CompiledStatement.toJson, CompileOptions.ofJson?
-/
import ColumnarSql.Json.ExprForm
import ColumnarSql.Statement.Compile

namespace ColumnarSql

open Json

/-- Expressions as a JSON array. -/
def exprsToJson (list : List Expr) : Json :=
  .array (list.map Expr.toJson)

/-- Decode a JSON array of expressions. -/
def exprsOfJson? : Json → Option (List Expr) :=
  list? Expr.ofJson?

/-- Strings as a JSON array. -/
def stringsToJson (list : List String) : Json :=
  .array (list.map .string)

/-- An unsigned integer or null as JSON. -/
def uint64ToJson (n : UInt64) : Json :=
  .integer n.toNat

/-! ### Settings -/

/-- The JSON form of settings, which are pairs. -/
def settingsToJson (settings : List Setting) : Json :=
  .array (settings.map fun (name, value) => .array [.string name, value.toJson])

/-- Decode settings. -/
def settingsOfJson? : Json → Option (List Setting) :=
  list? (pair? string? Value.ofJson?)

/-! ### Engines -/

/-- The JSON form of a TTL action. -/
def TtlAction.toJson : TtlAction → Json
  | .delete => .string "Delete"
  | .toDisk name => tagged "ToDisk" (.string name)
  | .toVolume name => tagged "ToVolume" (.string name)

/-- Decode a TTL action. -/
def TtlAction.ofJson? (json : Json) : Option TtlAction :=
  match variant? json with
  | some ("Delete", content) => unit? .delete content
  | some ("ToDisk", some content) => (string? content).map .toDisk
  | some ("ToVolume", some content) => (string? content).map .toVolume
  | _ => none

/-- The JSON form of a TTL entry. -/
def Ttl.toJson (entry : Ttl) : Json :=
  .object [("expr", entry.expr.toJson), ("action", Json.ofOption TtlAction.toJson entry.action)]

/-- Decode a TTL entry. -/
def Ttl.ofJson? (json : Json) : Option Ttl := do
  let fields ← Fields.ofJson? ["expr", "action"] json
  let expr ← fields.required "expr" Expr.ofJson?
  let action ← fields.defaulted "action" (option? TtlAction.ofJson?) none
  return ⟨expr, action⟩

/-- The names of the fields of an engine. -/
def Engine.fieldNames : List String :=
  ["name", "args", "partition_by", "order_by", "primary_key", "sample_by", "ttl", "settings"]

/-- The JSON form of an engine. -/
def Engine.toJson (engine : Engine) : Json :=
  .object
    [("name", .string engine.name),
      ("args", exprsToJson engine.args),
      ("partition_by", Json.ofOption exprsToJson engine.partitionBy),
      ("order_by", Json.ofOption exprsToJson engine.orderBy),
      ("primary_key", Json.ofOption exprsToJson engine.primaryKey),
      ("sample_by", Json.ofOption exprsToJson engine.sampleBy),
      ("ttl", .array (engine.ttl.map Ttl.toJson)),
      ("settings", settingsToJson engine.settings)]

/-- Decode an engine; only its name is required. -/
def Engine.ofJson? (json : Json) : Option Engine := do
  let fields ← Fields.ofJson? Engine.fieldNames json
  let name ← fields.required "name" string?
  let args ← fields.defaulted "args" exprsOfJson? []
  let partitionBy ← fields.defaulted "partition_by" (option? exprsOfJson?) none
  let orderBy ← fields.defaulted "order_by" (option? exprsOfJson?) none
  let primaryKey ← fields.defaulted "primary_key" (option? exprsOfJson?) none
  let sampleBy ← fields.defaulted "sample_by" (option? exprsOfJson?) none
  let ttl ← fields.defaulted "ttl" (list? Ttl.ofJson?) []
  let settings ← fields.defaulted "settings" settingsOfJson? []
  return ⟨name, args, partitionBy, orderBy, primaryKey, sampleBy, ttl, settings⟩

/-! ### Tables -/

/-- The JSON form of a column. -/
def Column.toJson (column : Column) : Json :=
  .object
    [("name", .string column.name),
      ("ty", column.type.toJson),
      ("default", Json.ofOption Expr.toJson column.default),
      ("comment", ofString? column.comment)]

/-- Decode a column. -/
def Column.ofJson? (json : Json) : Option Column := do
  let fields ← Fields.ofJson? ["name", "ty", "default", "comment"] json
  let name ← fields.required "name" string?
  let type ← fields.required "ty" ColumnType.ofJson?
  let default ← fields.defaulted "default" (option? Expr.ofJson?) none
  let comment ← fields.defaulted "comment" (option? string?) none
  return ⟨name, type, default, comment⟩

/-- The JSON form of a table. -/
def Table.toJson (table : Table) : Json :=
  .object
    [("name", .string table.name),
      ("columns", .array (table.columns.map Column.toJson)),
      ("engine", Json.ofOption Engine.toJson table.engine)]

/-- Decode a table. -/
def Table.ofJson? (json : Json) : Option Table := do
  let fields ← Fields.ofJson? ["name", "columns", "engine"] json
  let name ← fields.required "name" string?
  let columns ← fields.required "columns" (list? Column.ofJson?)
  let engine ← fields.defaulted "engine" (option? Engine.ofJson?) none
  return ⟨name, columns, engine⟩

/-! ### Parts of queries -/

/-- The JSON form of a sample. -/
def Sample.toJson (sample : Sample) : Json :=
  .object
    [("fraction", sample.fraction.toJson), ("offset", Json.ofOption Value.toJson sample.offset)]

/-- Decode a sample. -/
def Sample.ofJson? (json : Json) : Option Sample := do
  let fields ← Fields.ofJson? ["fraction", "offset"] json
  let fraction ← fields.required "fraction" Value.ofJson?
  let offset ← fields.defaulted "offset" (option? Value.ofJson?) none
  return ⟨fraction, offset⟩

/-- The JSON form of an array join. -/
def ArrayJoin.toJson (clause : ArrayJoin) : Json :=
  .object [("columns", exprsToJson clause.columns), ("left", .bool clause.left)]

/-- Decode an array join. -/
def ArrayJoin.ofJson? (json : Json) : Option ArrayJoin := do
  let fields ← Fields.ofJson? ["columns", "left"] json
  let columns ← fields.required "columns" exprsOfJson?
  let left ← fields.defaulted "left" bool? false
  return ⟨columns, left⟩

/-- The JSON form of a limit by expressions. -/
def LimitBy.toJson (clause : LimitBy) : Json :=
  .object
    [("by", exprsToJson clause.keys),
      ("limit", uint64ToJson clause.limit),
      ("offset", Json.ofOption uint64ToJson clause.offset)]

/-- Decode a limit by expressions. -/
def LimitBy.ofJson? (json : Json) : Option LimitBy := do
  let fields ← Fields.ofJson? ["by", "limit", "offset"] json
  let keys ← fields.required "by" exprsOfJson?
  let limit ← fields.required "limit" uint64?
  let offset ← fields.defaulted "offset" (option? uint64?) none
  return ⟨keys, limit, offset⟩

/-- The JSON name of a kind of join. -/
def JoinKind.jsonName : JoinKind → String
  | .inner => "Inner"
  | .leftOuter => "LeftOuter"
  | .rightOuter => "RightOuter"
  | .fullOuter => "FullOuter"

/-- The JSON name of a strictness. -/
def Strictness.jsonName : Strictness → String
  | .any => "Any"
  | .all => "All"
  | .asof => "Asof"

/-- The JSON name of a distribution. -/
def Distribution.jsonName : Distribution → String
  | .global => "Global"

/-- The JSON form of the modifiers of a join. -/
def JoinSpec.toJson (spec : JoinSpec) : Json :=
  .object
    [("kind", Json.ofOption (fun k : JoinKind => .string k.jsonName) spec.kind),
      ("strictness", Json.ofOption (fun s : Strictness => .string s.jsonName) spec.strictness),
      ("distribution",
        Json.ofOption (fun d : Distribution => .string d.jsonName) spec.distribution)]

/-- Decode the modifiers of a join. -/
def JoinSpec.ofJson? (json : Json) : Option JoinSpec := do
  let fields ← Fields.ofJson? ["kind", "strictness", "distribution"] json
  let kind ← fields.optional "kind"
    (named? [.inner, .leftOuter, .rightOuter, .fullOuter] JoinKind.jsonName)
  let strictness ← fields.optional "strictness" (named? [.any, .all, .asof] Strictness.jsonName)
  let distribution ← fields.optional "distribution" (named? [.global] Distribution.jsonName)
  return ⟨kind, strictness, distribution⟩

/-- The JSON form of the condition of a join. -/
def JoinConstraint.toJson : JoinConstraint → Json
  | .on predicate => tagged "On" predicate.toJson
  | .using columns => tagged "Using" (stringsToJson columns)

/-- Decode the condition of a join. -/
def JoinConstraint.ofJson? (json : Json) : Option JoinConstraint :=
  match variant? json with
  | some ("On", some content) => (Expr.ofJson? content).map .on
  | some ("Using", some content) => (list? string? content).map .using
  | _ => none

/-- The JSON form of a join. -/
def Join.toJson (join : Join) : Json :=
  .object
    [("table", .string join.table), ("constraint", join.constraint.toJson),
      ("spec", join.spec.toJson)]

/-- Decode a join. -/
def Join.ofJson? (json : Json) : Option Join := do
  let fields ← Fields.ofJson? ["table", "constraint", "spec"] json
  let table ← fields.required "table" string?
  let constraint ← fields.required "constraint" JoinConstraint.ofJson?
  let spec ← fields.defaulted "spec" JoinSpec.ofJson? {}
  return ⟨table, constraint, spec⟩

/-- The JSON name of a direction. -/
def SortOrder.jsonName : SortOrder → String
  | .asc => "Asc"
  | .desc => "Desc"

/-- The JSON form of an item of ORDER BY. -/
def OrderItem.toJson (item : OrderItem) : Json :=
  .object
    [("expr", item.expr.toJson),
      ("direction", Json.ofOption (fun d : SortOrder => .string d.jsonName) item.direction)]

/-- Decode an item of ORDER BY. -/
def OrderItem.ofJson? (json : Json) : Option OrderItem := do
  let fields ← Fields.ofJson? ["expr", "direction"] json
  let expr ← fields.required "expr" Expr.ofJson?
  let direction ← fields.optional "direction" (named? [.asc, .desc] SortOrder.jsonName)
  return ⟨expr, direction⟩

/-! ### Queries -/

/-- The names of the fields of a query. -/
def Select.fieldNames : List String :=
  ["columns", "distinct", "from", "is_final", "sample", "array_join", "joins", "filter",
    "group_by", "with_totals", "having", "order_by", "limit_by", "limit", "offset", "settings"]

/-- The JSON form of a query. -/
def Select.toJson (query : Select) : Json :=
  .object
    [("columns", exprsToJson query.columns),
      ("distinct", .bool query.distinct),
      ("from", ofString? query.source),
      ("is_final", .bool query.isFinal),
      ("sample", Json.ofOption Sample.toJson query.sample),
      ("array_join", Json.ofOption ArrayJoin.toJson query.arrayJoin),
      ("joins", .array (query.joins.map Join.toJson)),
      ("filter", Json.ofOption Expr.toJson query.filter),
      ("group_by", exprsToJson query.groupBy),
      ("with_totals", .bool query.totals),
      ("having", Json.ofOption Expr.toJson query.having),
      ("order_by", .array (query.orderBy.map OrderItem.toJson)),
      ("limit_by", Json.ofOption LimitBy.toJson query.limitBy),
      ("limit", Json.ofOption uint64ToJson query.limit),
      ("offset", Json.ofOption uint64ToJson query.offset),
      ("settings", settingsToJson query.settings)]

/-- Decode a query; every field has a default. -/
def Select.ofJson? (json : Json) : Option Select := do
  let fields ← Fields.ofJson? Select.fieldNames json
  let columns ← fields.defaulted "columns" exprsOfJson? []
  let distinct ← fields.defaulted "distinct" bool? false
  let source ← fields.defaulted "from" (option? string?) none
  let isFinal ← fields.defaulted "is_final" bool? false
  let sample ← fields.defaulted "sample" (option? Sample.ofJson?) none
  let arrayJoin ← fields.defaulted "array_join" (option? ArrayJoin.ofJson?) none
  let joins ← fields.defaulted "joins" (list? Join.ofJson?) []
  let filter ← fields.defaulted "filter" (option? Expr.ofJson?) none
  let groupBy ← fields.defaulted "group_by" exprsOfJson? []
  let totals ← fields.defaulted "with_totals" bool? false
  let having ← fields.defaulted "having" (option? Expr.ofJson?) none
  let orderBy ← fields.defaulted "order_by" (list? OrderItem.ofJson?) []
  let limitBy ← fields.defaulted "limit_by" (option? LimitBy.ofJson?) none
  let limit ← fields.defaulted "limit" (option? uint64?) none
  let offset ← fields.defaulted "offset" (option? uint64?) none
  let settings ← fields.defaulted "settings" settingsOfJson? []
  return ⟨columns, distinct, source, isFinal, sample, arrayJoin, joins, filter, groupBy, totals,
    having, orderBy, limitBy, limit, offset, settings⟩

/-! ### Statements -/

/-- The JSON form of rows. -/
def rowsToJson (rows : List (List Value)) : Json :=
  .array (rows.map fun row => .array (row.map Value.toJson))

/-- The JSON form of an insertion. -/
def Insert.toJson (insertion : Insert) : Json :=
  .object
    [("table", insertion.table.toJson), ("columns", stringsToJson insertion.columns),
      ("rows", rowsToJson insertion.rows)]

/-- Decode an insertion. -/
def Insert.ofJson? (json : Json) : Option Insert := do
  let fields ← Fields.ofJson? ["table", "columns", "rows"] json
  let table ← fields.required "table" Table.ofJson?
  let columns ← fields.defaulted "columns" (list? string?) []
  let rows ← fields.defaulted "rows" (list? (list? Value.ofJson?)) []
  return ⟨table, columns, rows⟩

/-- The JSON form of a deletion. -/
def Delete.toJson (deletion : Delete) : Json :=
  .object
    [("table", .string deletion.table), ("filter", Json.ofOption Expr.toJson deletion.filter)]

/-- Decode a deletion. -/
def Delete.ofJson? (json : Json) : Option Delete := do
  let fields ← Fields.ofJson? ["table", "filter"] json
  let table ← fields.required "table" string?
  let filter ← fields.defaulted "filter" (option? Expr.ofJson?) none
  return ⟨table, filter⟩

/-- The JSON form of the creation of a table. -/
def CreateTable.toJson (creation : CreateTable) : Json :=
  .object [("table", creation.table.toJson), ("if_not_exists", .bool creation.ifNotExists)]

/-- Decode the creation of a table. -/
def CreateTable.ofJson? (json : Json) : Option CreateTable := do
  let fields ← Fields.ofJson? ["table", "if_not_exists"] json
  let table ← fields.required "table" Table.ofJson?
  let ifNotExists ← fields.defaulted "if_not_exists" bool? false
  return ⟨table, ifNotExists⟩

/-- The JSON form of the removal of a table. -/
def DropTable.toJson (removal : DropTable) : Json :=
  .object [("table", .string removal.table), ("if_exists", .bool removal.ifExists)]

/-- Decode the removal of a table. -/
def DropTable.ofJson? (json : Json) : Option DropTable := do
  let fields ← Fields.ofJson? ["table", "if_exists"] json
  let table ← fields.required "table" string?
  let ifExists ← fields.defaulted "if_exists" bool? false
  return ⟨table, ifExists⟩

/-- The JSON form of a statement. -/
def Statement.toJson : Statement → Json
  | .select query => tagged "Select" query.toJson
  | .insert insertion => tagged "Insert" insertion.toJson
  | .delete deletion => tagged "Delete" deletion.toJson
  | .createTable creation => tagged "CreateTable" creation.toJson
  | .dropTable removal => tagged "DropTable" removal.toJson

/-- Decode a statement. -/
def Statement.ofJson? (json : Json) : Option Statement :=
  match variant? json with
  | some ("Select", some content) => (Select.ofJson? content).map .select
  | some ("Insert", some content) => (Insert.ofJson? content).map .insert
  | some ("Delete", some content) => (Delete.ofJson? content).map .delete
  | some ("CreateTable", some content) => (CreateTable.ofJson? content).map .createTable
  | some ("DropTable", some content) => (DropTable.ofJson? content).map .dropTable
  | _ => none

/-! ### Compilation -/

/-- The JSON form of options. -/
def CompileOptions.toJson (options : CompileOptions) : Json :=
  .object
    [("literal_binds", .bool options.literalBinds), ("param_style", .string options.style.name)]

/-- Decode a style of parameters. -/
def ParameterStyle.ofJson? : Json → Option ParameterStyle :=
  named? [.pyformat, .named, .qmark] ParameterStyle.name

/-- Decode options. -/
def CompileOptions.ofJson? (json : Json) : Option CompileOptions := do
  let fields ← Fields.ofJson? ["literal_binds", "param_style"] json
  let literalBinds ← fields.defaulted "literal_binds" bool? false
  let style ← fields.defaulted "param_style" ParameterStyle.ofJson? .pyformat
  return ⟨literalBinds, style⟩

/-- The JSON form of a parameter. -/
def Parameter.toJson (param : Parameter) : Json :=
  .object [("name", .string param.name), ("value", param.value.toJson)]

/-- The JSON form of a compiled statement. -/
def CompiledStatement.toJson (compiled : CompiledStatement) : Json :=
  .object
    [("sql", .string compiled.sql), ("params", .array (compiled.params.map Parameter.toJson)),
      ("rows", rowsToJson compiled.rows)]

end ColumnarSql
