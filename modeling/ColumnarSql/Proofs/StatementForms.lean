/-
Module: ColumnarSql.Proofs.StatementForms
Purpose: The JSON text of a statement is read back as the statement.
Main exports:
  Statement.numbers, Statement.unsignedZeros, Statement.restores,
  Statement.ofJson?_parse?_compact
-/
import ColumnarSql.Json.StatementForm
import ColumnarSql.Proofs.JsonForms

namespace ColumnarSql

open Json

/-! ### Parts that several records share

The numbers of a record are those of its parts, and it loses the signs of its
decimal zeros part by part. -/

namespace Expr

/-- The numbers of a list of expressions are those of its members, in order. -/
theorem listNumbers_eq_flatMap (list : List Expr) : listNumbers list = list.flatMap numbers := by
  induction list with
  | nil => rfl
  | cons e rest inductionHypothesis =>
      rw [listNumbers, List.flatMap_cons, inductionHypothesis]

/-- Settling the zeros of a list settles those of each member. -/
theorem listUnsigned_eq_map (list : List Expr) : listUnsigned list = list.map unsignedZeros := by
  induction list with
  | nil => rfl
  | cons e rest inductionHypothesis =>
      rw [listUnsigned, List.map_cons, inductionHypothesis]

/-- Lists of expressions are restored, since their members are. -/
theorem list_restores : Restores exprsToJson exprsOfJson? listNumbers listUnsigned := by
  rw [funext listNumbers_eq_flatMap, funext listUnsigned_eq_map]
  exact restores.list

end Expr

/-- A key of an engine is restored, and so is its absence. -/
theorem restores_key :
    Restores (ofOption exprsToJson) (option? exprsOfJson?)
      (fun key => key.toList.flatMap Expr.listNumbers) (Option.map Expr.listUnsigned) :=
  Expr.list_restores.option rfl

/-- Names are restored as they are; no number occurs in them. -/
theorem restores_strings : Restores stringsToJson (list? string?) (fun _ => []) id := by
  apply Restores.plain
  · intro list
    have decoded := restores_string.list.decodes list
    rwa [List.map_id] at decoded
  · intro list
    exact restores_string.list.writable list (by simp)

/-- Counts and limits are restored over their whole range. -/
theorem restores_uint64 : Restores uint64ToJson uint64? (fun _ => []) id :=
  .plain uint64?_integer writable_uint64

/-- Settings are restored with their order and the values behind their names. -/
theorem restores_settings :
    Restores settingsToJson settingsOfJson? (fun settings => settings.flatMap (·.2.numbers))
      (List.map (Prod.map id Value.unsignedZeros)) :=
  (restores_string.pair Value.restores).list

/-- Rows are restored value by value. -/
theorem restores_rows :
    Restores rowsToJson (list? (list? Value.ofJson?))
      (fun rows => rows.flatMap fun row => row.flatMap Value.numbers)
      (List.map (List.map Value.unsignedZeros)) :=
  Value.restores.list.list

/-! ### Engines -/

/-- What happens to expired rows is restored, with the name of the disk or
volume. -/
theorem TtlAction.restores : Restores toJson ofJson? (fun _ => []) id := by
  apply Restores.plain
  · intro action
    cases action <;> rfl
  · intro action
    cases action with
    | delete => trivial
    | toDisk name => exact writable_tagged.mpr trivial
    | toVolume name => exact writable_tagged.mpr trivial

namespace Ttl

def numbers (entry : Ttl) : List Number :=
  entry.expr.numbers

def unsignedZeros (entry : Ttl) : Ttl :=
  { entry with expr := entry.expr.unsignedZeros }

/-- An entry of a lifetime is restored if its expression is. -/
theorem restores : Restores toJson ofJson? numbers unsignedZeros where
  decodes entry := by
    rw [ofJson?, toJson, Fields.ofJson?_object_bind (by rfl) (by decide),
      Expr.restores.required (by rfl), (TtlAction.restores.plainOption rfl).defaulted (by rfl)]
    rfl
  writable entry finite :=
    ⟨Expr.restores.writable _ finite, (TtlAction.restores.plainOption rfl).writable_plain _,
      trivial⟩
  kept entry settled := by rw [unsignedZeros, Expr.restores.kept _ settled]

end Ttl

namespace Engine

def numbers (engine : Engine) : List Number :=
  Expr.listNumbers engine.args ++ engine.partitionBy.toList.flatMap Expr.listNumbers ++
    engine.orderBy.toList.flatMap Expr.listNumbers ++
    engine.primaryKey.toList.flatMap Expr.listNumbers ++
    engine.sampleBy.toList.flatMap Expr.listNumbers ++ engine.ttl.flatMap Ttl.numbers ++
    engine.settings.flatMap (·.2.numbers)

def unsignedZeros (engine : Engine) : Engine where
  name := engine.name
  args := Expr.listUnsigned engine.args
  partitionBy := engine.partitionBy.map Expr.listUnsigned
  orderBy := engine.orderBy.map Expr.listUnsigned
  primaryKey := engine.primaryKey.map Expr.listUnsigned
  sampleBy := engine.sampleBy.map Expr.listUnsigned
  ttl := engine.ttl.map Ttl.unsignedZeros
  settings := engine.settings.map (Prod.map id Value.unsignedZeros)

/-- An engine is restored with its keys, lifetimes and settings. -/
theorem restores : Restores toJson ofJson? numbers unsignedZeros where
  decodes engine := by
    -- The fields stand in the order in which the decoder asks for them.
    rw [ofJson?, toJson, Fields.ofJson?_object_bind (by rfl) (by decide),
      restores_string.required (by rfl), Expr.list_restores.defaulted (by rfl),
      restores_key.defaulted (by rfl),
      restores_key.defaulted (by rfl),
      restores_key.defaulted (by rfl),
      restores_key.defaulted (by rfl), Ttl.restores.list.defaulted (by rfl),
      restores_settings.defaulted (by rfl)]
    rfl
  writable engine finite := by
    simp only [numbers, List.forall_mem_append, and_assoc] at finite
    obtain ⟨args, partitionBy, orderBy, primaryKey, sampleBy, ttl, settings⟩ := finite
    exact ⟨trivial, Expr.list_restores.writable _ args,
      restores_key.writable _ partitionBy,
      restores_key.writable _ orderBy,
      restores_key.writable _ primaryKey,
      restores_key.writable _ sampleBy,
      Ttl.restores.list.writable _ ttl, restores_settings.writable _ settings, trivial⟩
  kept engine settled := by
    simp only [numbers, List.forall_mem_append, and_assoc] at settled
    obtain ⟨args, partitionBy, orderBy, primaryKey, sampleBy, ttl, settings⟩ := settled
    rw [unsignedZeros, Expr.list_restores.kept _ args,
      restores_key.kept _ partitionBy,
      restores_key.kept _ orderBy,
      restores_key.kept _ primaryKey,
      restores_key.kept _ sampleBy, Ttl.restores.list.kept _ ttl,
      restores_settings.kept _ settings]

end Engine

/-! ### Tables -/

namespace Column

def numbers (column : Column) : List Number :=
  column.default.toList.flatMap Expr.numbers

def unsignedZeros (column : Column) : Column :=
  { column with default := column.default.map Expr.unsignedZeros }

/-- A column is restored with its type, default and comment. -/
theorem restores : Restores toJson ofJson? numbers unsignedZeros where
  decodes column := by
    rw [ofJson?, toJson, Fields.ofJson?_object_bind (by rfl) (by decide),
      restores_string.required (by rfl), ColumnType.restores.required (by rfl),
      (Expr.restores.option rfl).defaulted (by rfl), restores_ofString?.defaulted (by rfl)]
    rfl
  writable column finite :=
    ⟨trivial, column.type.writable_toJson, (Expr.restores.option rfl).writable _ finite,
      writable_ofString? column.comment, trivial⟩
  kept column settled := by rw [unsignedZeros, (Expr.restores.option rfl).kept _ settled]

end Column

namespace Table

def numbers (table : Table) : List Number :=
  table.columns.flatMap Column.numbers ++ table.engine.toList.flatMap Engine.numbers

def unsignedZeros (table : Table) : Table where
  name := table.name
  columns := table.columns.map Column.unsignedZeros
  engine := table.engine.map Engine.unsignedZeros

/-- A table is restored with its columns and its engine. -/
theorem restores : Restores toJson ofJson? numbers unsignedZeros where
  decodes table := by
    rw [ofJson?, toJson, Fields.ofJson?_object_bind (by rfl) (by decide),
      restores_string.required (by rfl), Column.restores.list.required (by rfl),
      (Engine.restores.option rfl).defaulted (by rfl)]
    rfl
  writable table finite := by
    rw [numbers, List.forall_mem_append] at finite
    exact ⟨trivial, Column.restores.list.writable _ finite.1,
      (Engine.restores.option rfl).writable _ finite.2, trivial⟩
  kept table settled := by
    rw [numbers, List.forall_mem_append] at settled
    rw [unsignedZeros, Column.restores.list.kept _ settled.1,
      (Engine.restores.option rfl).kept _ settled.2]

end Table

/-! ### Parts of queries -/

namespace Sample

def numbers (sample : Sample) : List Number :=
  sample.fraction.numbers ++ sample.offset.toList.flatMap Value.numbers

def unsignedZeros (sample : Sample) : Sample where
  fraction := sample.fraction.unsignedZeros
  offset := sample.offset.map Value.unsignedZeros

theorem restores : Restores toJson ofJson? numbers unsignedZeros where
  decodes sample := by
    rw [ofJson?, toJson, Fields.ofJson?_object_bind (by rfl) (by decide),
      Value.restores.required (by rfl), (Value.restores.option rfl).defaulted (by rfl)]
    rfl
  writable sample finite := by
    rw [numbers, List.forall_mem_append] at finite
    exact ⟨Value.restores.writable _ finite.1, (Value.restores.option rfl).writable _ finite.2,
      trivial⟩
  kept sample settled := by
    rw [numbers, List.forall_mem_append] at settled
    rw [unsignedZeros, Value.restores.kept _ settled.1,
      (Value.restores.option rfl).kept _ settled.2]

end Sample

namespace ArrayJoin

def numbers (clause : ArrayJoin) : List Number :=
  Expr.listNumbers clause.columns

def unsignedZeros (clause : ArrayJoin) : ArrayJoin :=
  { clause with columns := Expr.listUnsigned clause.columns }

theorem restores : Restores toJson ofJson? numbers unsignedZeros where
  decodes clause := by
    rw [ofJson?, toJson, Fields.ofJson?_object_bind (by rfl) (by decide),
      Expr.list_restores.required (by rfl), restores_bool.defaulted (by rfl)]
    rfl
  writable clause finite := ⟨Expr.list_restores.writable _ finite, trivial, trivial⟩
  kept clause settled := by rw [unsignedZeros, Expr.list_restores.kept _ settled]

end ArrayJoin

namespace LimitBy

def numbers (clause : LimitBy) : List Number :=
  Expr.listNumbers clause.keys

def unsignedZeros (clause : LimitBy) : LimitBy :=
  { clause with keys := Expr.listUnsigned clause.keys }

theorem restores : Restores toJson ofJson? numbers unsignedZeros where
  decodes clause := by
    rw [ofJson?, toJson, Fields.ofJson?_object_bind (by rfl) (by decide),
      Expr.list_restores.required (by rfl), restores_uint64.required (by rfl),
      (restores_uint64.plainOption rfl).defaulted (by rfl)]
    rfl
  writable clause finite :=
    ⟨Expr.list_restores.writable _ finite, writable_uint64 clause.limit,
      (restores_uint64.plainOption rfl).writable_plain _, trivial⟩
  kept clause settled := by rw [unsignedZeros, Expr.list_restores.kept _ settled]

end LimitBy

theorem JoinKind.restores :
    Restores (fun kind : JoinKind => .string kind.jsonName)
      (named? [.inner, .leftOuter, .rightOuter, .fullOuter] JoinKind.jsonName) (fun _ => []) id :=
  .plain (fun kind => by cases kind <;> rfl) fun _ => trivial

theorem Strictness.restores :
    Restores (fun strictness : Strictness => .string strictness.jsonName)
      (named? [.any, .all, .asof] Strictness.jsonName) (fun _ => []) id :=
  .plain (fun strictness => by cases strictness <;> rfl) fun _ => trivial

theorem Distribution.restores :
    Restores (fun distribution : Distribution => .string distribution.jsonName)
      (named? [.global] Distribution.jsonName) (fun _ => []) id :=
  .plain (fun distribution => by cases distribution; rfl) fun _ => trivial

/-- The kind of a join, its strictness and its distribution are restored
together. -/
theorem JoinSpec.restores : Restores toJson ofJson? (fun _ => []) id := by
  apply Restores.plain
  · intro spec
    rw [ofJson?, toJson, Fields.ofJson?_object_bind (by rfl) (by decide),
      (JoinKind.restores.plainOption rfl).optional (by rfl),
      (Strictness.restores.plainOption rfl).optional (by rfl),
      (Distribution.restores.plainOption rfl).optional (by rfl)]
    rfl
  · intro spec
    exact ⟨(JoinKind.restores.plainOption rfl).writable_plain _,
      (Strictness.restores.plainOption rfl).writable_plain _,
      (Distribution.restores.plainOption rfl).writable_plain _, trivial⟩

namespace JoinConstraint

def numbers : JoinConstraint → List Number
  | .on predicate => predicate.numbers
  | .using _ => []

def unsignedZeros : JoinConstraint → JoinConstraint
  | .on predicate => .on predicate.unsignedZeros
  | .using columns => .using columns

/-- The condition of a join is restored in both of its forms. -/
theorem restores : Restores toJson ofJson? numbers unsignedZeros where
  decodes
    | .on predicate => congrArg (Option.map JoinConstraint.on) (Expr.restores.decodes predicate)
    | .using columns =>
        congrArg (Option.map JoinConstraint.using) (restores_strings.decodes columns)
  writable
    | .on predicate, finite => writable_tagged.mpr (Expr.restores.writable predicate finite)
    | .using columns, finite => writable_tagged.mpr (restores_strings.writable columns finite)
  kept
    | .on predicate, settled => congrArg JoinConstraint.on (Expr.restores.kept predicate settled)
    | .using _, _ => rfl

end JoinConstraint

namespace Join

def numbers (join : Join) : List Number :=
  join.constraint.numbers

def unsignedZeros (join : Join) : Join :=
  { join with constraint := join.constraint.unsignedZeros }

/-- A join is restored with its target, its kind and its condition. -/
theorem restores : Restores toJson ofJson? numbers unsignedZeros where
  decodes join := by
    rw [ofJson?, toJson, Fields.ofJson?_object_bind (by rfl) (by decide),
      restores_string.required (by rfl), JoinConstraint.restores.required (by rfl),
      JoinSpec.restores.defaulted (by rfl)]
    rfl
  writable join finite :=
    ⟨trivial, JoinConstraint.restores.writable _ finite,
      JoinSpec.restores.writable_plain join.spec, trivial⟩
  kept join settled := by rw [unsignedZeros, JoinConstraint.restores.kept _ settled]

end Join

theorem SortOrder.restores :
    Restores (fun direction : SortOrder => .string direction.jsonName)
      (named? [.asc, .desc] SortOrder.jsonName) (fun _ => []) id :=
  .plain (fun direction => by cases direction <;> rfl) fun _ => trivial

namespace OrderItem

def numbers (item : OrderItem) : List Number :=
  item.expr.numbers

def unsignedZeros (item : OrderItem) : OrderItem :=
  { item with expr := item.expr.unsignedZeros }

theorem restores : Restores toJson ofJson? numbers unsignedZeros where
  decodes item := by
    rw [ofJson?, toJson, Fields.ofJson?_object_bind (by rfl) (by decide),
      Expr.restores.required (by rfl), (SortOrder.restores.plainOption rfl).optional (by rfl)]
    rfl
  writable item finite :=
    ⟨Expr.restores.writable _ finite, (SortOrder.restores.plainOption rfl).writable_plain _,
      trivial⟩
  kept item settled := by rw [unsignedZeros, Expr.restores.kept _ settled]

end OrderItem

/-! ### Queries -/

namespace Select

def numbers (query : Select) : List Number :=
  Expr.listNumbers query.columns ++ query.sample.toList.flatMap Sample.numbers ++
    query.arrayJoin.toList.flatMap ArrayJoin.numbers ++ query.joins.flatMap Join.numbers ++
    query.filter.toList.flatMap Expr.numbers ++ Expr.listNumbers query.groupBy ++
    query.having.toList.flatMap Expr.numbers ++ query.orderBy.flatMap OrderItem.numbers ++
    query.limitBy.toList.flatMap LimitBy.numbers ++ query.settings.flatMap (·.2.numbers)

def unsignedZeros (query : Select) : Select :=
  { query with
    columns := Expr.listUnsigned query.columns
    sample := query.sample.map Sample.unsignedZeros
    arrayJoin := query.arrayJoin.map ArrayJoin.unsignedZeros
    joins := query.joins.map Join.unsignedZeros
    filter := query.filter.map Expr.unsignedZeros
    groupBy := Expr.listUnsigned query.groupBy
    having := query.having.map Expr.unsignedZeros
    orderBy := query.orderBy.map OrderItem.unsignedZeros
    limitBy := query.limitBy.map LimitBy.unsignedZeros
    settings := query.settings.map (Prod.map id Value.unsignedZeros) }

/-- A query is restored with all of its clauses. -/
theorem restores : Restores toJson ofJson? numbers unsignedZeros where
  decodes query := by
    rw [ofJson?, toJson, Fields.ofJson?_object_bind (by rfl) (by decide),
      Expr.list_restores.defaulted (by rfl), restores_bool.defaulted (by rfl),
      restores_ofString?.defaulted (by rfl), restores_bool.defaulted (by rfl),
      (Sample.restores.option rfl).defaulted (by rfl),
      (ArrayJoin.restores.option rfl).defaulted (by rfl), Join.restores.list.defaulted (by rfl),
      (Expr.restores.option rfl).defaulted (by rfl), Expr.list_restores.defaulted (by rfl),
      restores_bool.defaulted (by rfl), (Expr.restores.option rfl).defaulted (by rfl),
      OrderItem.restores.list.defaulted (by rfl), (LimitBy.restores.option rfl).defaulted (by rfl),
      (restores_uint64.plainOption rfl).defaulted (by rfl),
      (restores_uint64.plainOption rfl).defaulted (by rfl), restores_settings.defaulted (by rfl)]
    rfl
  writable query finite := by
    simp only [numbers, List.forall_mem_append, and_assoc] at finite
    obtain ⟨columns, sample, arrayJoin, joins, filter, groupBy, having, orderBy, limitBy,
      settings⟩ := finite
    have bounds (n : Option UInt64) : (ofOption uint64ToJson n).Writable :=
      (restores_uint64.plainOption rfl).writable_plain n
    exact ⟨Expr.list_restores.writable _ columns, trivial, writable_ofString? query.source, trivial,
      (Sample.restores.option rfl).writable _ sample,
      (ArrayJoin.restores.option rfl).writable _ arrayJoin, Join.restores.list.writable _ joins,
      (Expr.restores.option rfl).writable _ filter, Expr.list_restores.writable _ groupBy, trivial,
      (Expr.restores.option rfl).writable _ having, OrderItem.restores.list.writable _ orderBy,
      (LimitBy.restores.option rfl).writable _ limitBy, bounds query.limit, bounds query.offset,
      restores_settings.writable _ settings, trivial⟩
  kept query settled := by
    simp only [numbers, List.forall_mem_append, and_assoc] at settled
    obtain ⟨columns, sample, arrayJoin, joins, filter, groupBy, having, orderBy, limitBy,
      settings⟩ := settled
    rw [unsignedZeros, Expr.list_restores.kept _ columns,
      (Sample.restores.option rfl).kept _ sample,
      (ArrayJoin.restores.option rfl).kept _ arrayJoin, Join.restores.list.kept _ joins,
      (Expr.restores.option rfl).kept _ filter, Expr.list_restores.kept _ groupBy,
      (Expr.restores.option rfl).kept _ having, OrderItem.restores.list.kept _ orderBy,
      (LimitBy.restores.option rfl).kept _ limitBy, restores_settings.kept _ settings]

end Select

/-! ### Statements -/

namespace Insert

def numbers (insertion : Insert) : List Number :=
  insertion.table.numbers ++ insertion.rows.flatMap fun row => row.flatMap Value.numbers

def unsignedZeros (insertion : Insert) : Insert :=
  { insertion with
    table := insertion.table.unsignedZeros
    rows := insertion.rows.map (List.map Value.unsignedZeros) }

/-- An insertion is restored with its table, its columns and its rows. -/
theorem restores : Restores toJson ofJson? numbers unsignedZeros where
  decodes insertion := by
    rw [ofJson?, toJson, Fields.ofJson?_object_bind (by rfl) (by decide),
      Table.restores.required (by rfl), restores_strings.defaulted (by rfl),
      restores_rows.defaulted (by rfl)]
    rfl
  writable insertion finite := by
    rw [numbers, List.forall_mem_append] at finite
    exact ⟨Table.restores.writable _ finite.1, restores_strings.writable_plain insertion.columns,
      restores_rows.writable _ finite.2, trivial⟩
  kept insertion settled := by
    rw [numbers, List.forall_mem_append] at settled
    rw [unsignedZeros, Table.restores.kept _ settled.1, restores_rows.kept _ settled.2]

end Insert

namespace Delete

def numbers (deletion : Delete) : List Number :=
  deletion.filter.toList.flatMap Expr.numbers

def unsignedZeros (deletion : Delete) : Delete :=
  { deletion with filter := deletion.filter.map Expr.unsignedZeros }

/-- A deletion is restored with its condition. -/
theorem restores : Restores toJson ofJson? numbers unsignedZeros where
  decodes deletion := by
    rw [ofJson?, toJson, Fields.ofJson?_object_bind (by rfl) (by decide),
      restores_string.required (by rfl), (Expr.restores.option rfl).defaulted (by rfl)]
    rfl
  writable deletion finite :=
    ⟨trivial, (Expr.restores.option rfl).writable _ finite, trivial⟩
  kept deletion settled := by rw [unsignedZeros, (Expr.restores.option rfl).kept _ settled]

end Delete

namespace CreateTable

def numbers (creation : CreateTable) : List Number :=
  creation.table.numbers

def unsignedZeros (creation : CreateTable) : CreateTable :=
  { creation with table := creation.table.unsignedZeros }

/-- The creation of a table is restored with the table. -/
theorem restores : Restores toJson ofJson? numbers unsignedZeros where
  decodes creation := by
    rw [ofJson?, toJson, Fields.ofJson?_object_bind (by rfl) (by decide),
      Table.restores.required (by rfl), restores_bool.defaulted (by rfl)]
    rfl
  writable creation finite := ⟨Table.restores.writable _ finite, trivial, trivial⟩
  kept creation settled := by rw [unsignedZeros, Table.restores.kept _ settled]

end CreateTable

theorem DropTable.restores : Restores toJson ofJson? (fun _ => []) id := by
  apply Restores.plain
  · intro removal
    rw [ofJson?, toJson, Fields.ofJson?_object_bind (by rfl) (by decide),
      restores_string.required (by rfl), restores_bool.defaulted (by rfl)]
    rfl
  · intro removal
    exact ⟨trivial, trivial, trivial⟩

namespace Statement

/-- The floating-point and decimal numbers in a statement. -/
def numbers : Statement → List Number
  | .select query => query.numbers
  | .insert insertion => insertion.numbers
  | .delete deletion => deletion.numbers
  | .createTable creation => creation.numbers
  | .dropTable _ => []

/-- A statement without the signs of its decimal zeros. -/
def unsignedZeros : Statement → Statement
  | .select query => .select query.unsignedZeros
  | .insert insertion => .insert insertion.unsignedZeros
  | .delete deletion => .delete deletion.unsignedZeros
  | .createTable creation => .createTable creation.unsignedZeros
  | .dropTable removal => .dropTable removal

/-- Every statement is restored; its tag says which of the five it is. -/
theorem restores : Restores toJson ofJson? numbers unsignedZeros where
  decodes
    | .select query => congrArg (Option.map Statement.select) (Select.restores.decodes query)
    | .insert insertion =>
        congrArg (Option.map Statement.insert) (Insert.restores.decodes insertion)
    | .delete deletion => congrArg (Option.map Statement.delete) (Delete.restores.decodes deletion)
    | .createTable creation =>
        congrArg (Option.map Statement.createTable) (CreateTable.restores.decodes creation)
    | .dropTable removal =>
        congrArg (Option.map Statement.dropTable) (DropTable.restores.decodes removal)
  writable
    | .select query, finite => writable_tagged.mpr (Select.restores.writable query finite)
    | .insert insertion, finite => writable_tagged.mpr (Insert.restores.writable insertion finite)
    | .delete deletion, finite => writable_tagged.mpr (Delete.restores.writable deletion finite)
    | .createTable creation, finite =>
        writable_tagged.mpr (CreateTable.restores.writable creation finite)
    | .dropTable removal, finite => writable_tagged.mpr (DropTable.restores.writable removal finite)
  kept
    | .select query, settled => congrArg Statement.select (Select.restores.kept query settled)
    | .insert insertion, settled =>
        congrArg Statement.insert (Insert.restores.kept insertion settled)
    | .delete deletion, settled => congrArg Statement.delete (Delete.restores.kept deletion settled)
    | .createTable creation, settled =>
        congrArg Statement.createTable (CreateTable.restores.kept creation settled)
    | .dropTable _, _ => rfl

/-- The text of a statement is read back as the statement.  What may change is
the sign of a zero among its decimals, which its text does not keep; the number
is the same, and if there is no such zero nothing changes at all. -/
theorem ofJson?_parse?_compact (statement : Statement) {limit : Nat}
    (finite : ∀ x, .float x ∈ statement.numbers → x.isFinite = true)
    (shallow : statement.toJson.depth ≤ limit) :
    (Json.parse? limit statement.toJson.compact).bind ofJson? = some statement.unsignedZeros ∧
      (∀ d, .decimal d ∈ statement.numbers → d.sameNumber d.unsignedZero = true) ∧
      ((∀ d, .decimal d ∈ statement.numbers → d.mantissa = 0 → d.negative = false) →
        statement.unsignedZeros = statement) := by
  have hasTexts : ∀ n ∈ statement.numbers, n.HasText := by
    intro n listed
    cases n with
    | float x => exact finite x listed
    | decimal d => trivial
  refine ⟨?_, fun d _ => d.sameNumber_unsignedZero, fun signless => ?_⟩
  · rw [Json.parse?_compact (restores.writable statement hasTexts) shallow, Option.bind_some]
    exact restores.decodes statement
  · apply restores.kept
    intro n listed
    cases n with
    | float x => trivial
    | decimal d => exact Decimal.unsignedZero_eq_self (signless d listed)

/-- A query with floating-point numbers and a decimal, nested in expressions
and a sample. -/
def taxes : Statement :=
  .select
    { columns :=
        [.label (.binary (.column (some "t") "price") .multiply
            (.literal (.float (.number false ⟨4591870180066957722, by decide⟩)))) "tax",
          .cast (.bind none (.map [(.string "\"owed\"",
              .array [.decimal ⟨true, 1500, 3, by decide, by decide⟩, .null])]))
            (.map (.scalar (.string none)) (.array (.nullable (.scalar (.decimal 9 2)))))]
      source := some "trades"
      sample := some ⟨.float (.number false ⟨4602678819172646912, by decide⟩), none⟩
      joins := [⟨"rates", .using ["day"], { kind := some .leftOuter, strictness := some .any }⟩]
      filter := some (.inList (.column none "day") [.literal (.int .minValue), .raw "today()"] true)
      limitBy := some ⟨[.column none "day"], 3, some 5⟩
      settings := [("max_threads", .uint 8)] }

/-- The query `taxes` meets the conditions, and its text reads back as itself. -/
theorem ofJson?_parse?_compact_taxes :
    (∀ x, .float x ∈ taxes.numbers → x.isFinite = true) ∧
      (∀ d, .decimal d ∈ taxes.numbers → d.mantissa = 0 → d.negative = false) ∧
      taxes.toJson.depth ≤ 127 ∧
      (Json.parse? 127 taxes.toJson.compact).bind ofJson? = some taxes := by
  have listed : taxes.numbers =
      [.float (.number false ⟨4591870180066957722, by decide⟩),
        .decimal ⟨true, 1500, 3, by decide, by decide⟩,
        .float (.number false ⟨4602678819172646912, by decide⟩)] :=
    rfl
  have finite : ∀ x, .float x ∈ taxes.numbers → x.isFinite = true := by
    simp only [listed, List.mem_cons, Number.float.injEq, reduceCtorEq, false_or, or_false,
      List.not_mem_nil]
    rintro x (rfl | rfl)
    · decide
    · decide
  have signless : ∀ d, .decimal d ∈ taxes.numbers → d.mantissa = 0 → d.negative = false := by
    simp [listed]
  have shallow : taxes.toJson.depth ≤ 127 := by decide
  obtain ⟨decoded, -, kept⟩ := ofJson?_parse?_compact taxes finite shallow
  exact ⟨finite, signless, shallow, by rw [decoded, kept signless]⟩

end Statement

end ColumnarSql
