/-
Module: ColumnarSql.Proofs.CompileFailures
Purpose: The statements that cannot be compiled: what is missing or empty in
  them, and the casts to types that the server does not accept.
Main exports:
  Expr.Visited, Expr.HasInvalidCast, Expr.sql_complete_iff, Select.Refused,
  Delete.Refused, CreateTable.Refused, Statement.compile_fails_iff
-/
import ColumnarSql.Proofs.FragmentLaws
import ColumnarSql.Statement.Compile

namespace ColumnarSql

/-! ### Fragments without a fault -/

namespace Fragment

variable {a b : Fragment}

@[simp] theorem fault_empty : empty.fault = none := rfl

@[simp] theorem fault_text (s : String) : (text s).fault = none := rfl

@[simp] theorem fault_bind (key : Option String) (value : Value) :
    (bind key value).fault = none := rfl

@[simp] theorem fault_fail (error : Error) : (fail error).fault = some error := rfl

@[simp] theorem fault_textIf (condition : Bool) (s : String) :
    (textIf condition s).fault = none := by
  cases condition <;> rfl

/-- Writing succeeds if every part of it does. -/
@[simp] theorem fault_append_eq_none_iff :
    (a ++ b).fault = none ↔ a.fault = none ∧ b.fault = none := by
  cases stopped : a.fault with
  | some error => simp [append_of_fault stopped, stopped]
  | none => simp [append_of_complete stopped]

/-- A guarded fragment is complete if its check passes and it is complete
itself. -/
@[simp] theorem fault_guarded_eq_none_iff {check : Except Error Unit} :
    (guarded check a).fault = none ↔ check = .ok () ∧ a.fault = none := by
  cases check <;> simp [guarded]

/-- Joined fragments are complete if each of them is. -/
@[simp] theorem fault_joinWith_eq_none_iff (separator : String) : ∀ items : List Fragment,
    (joinWith separator items).fault = none ↔ ∀ item ∈ items, item.fault = none
  | [] => by simp [joinWith]
  | [item] => by simp [joinWith]
  | item :: next :: rest => by
      have later := fault_joinWith_eq_none_iff separator (next :: rest)
      simp only [joinWith, fault_append_eq_none_iff, fault_text, and_true, later,
        List.forall_mem_cons]

/-- Something optional is complete if it is absent or its fragment is
complete. -/
@[simp] theorem fault_ofOption_eq_none_iff {α : Type} {write : α → Fragment} {value : Option α} :
    (ofOption write value).fault = none ↔ ∀ a, value = some a → (write a).fault = none := by
  cases value <;> simp [ofOption]

/-- A fault is all that keeps a fragment from being compiled, whatever the
options. -/
theorem compiled_fails_iff {options : CompileOptions} :
    (∃ error, a.compiled options = .error error) ↔ a.fault ≠ none := by
  cases stopped : a.fault <;> simp [compiled, spell, stopped]

end Fragment

/-! ### Casts that are visited

Writing an expression visits its parts, but never what a label names, which is
referred to by the name alone, nor anything in a test against the empty list,
whose answer is written instead. -/

namespace Expr

/-- The parts of an expression that are written with it. -/
def writtenParts : Expr → List Expr
  | .function _ args => args
  | .binary left _ right => [left, right]
  | .not e => [e]
  | .isNull e _ => [e]
  | .inList e list _ => if list.isEmpty then [] else e :: list
  | .distinctFrom left right _ => [left, right]
  | .tuple items => items
  | .extract _ e => [e]
  | .cast e _ => [e]
  | .lambda _ body => [body]
  | .column _ _ => []
  | .star => []
  | .literal _ => []
  | .bind _ _ => []
  | .label _ _ => []
  | .raw _ => []

/-- The second expression is visited when the first is written. -/
inductive Visited : Expr → Expr → Prop where
  | self (e : Expr) : Visited e e
  | inside {e part visited : Expr} (written : part ∈ e.writtenParts)
      (below : Visited part visited) : Visited e visited

/-- A cast to a type that the server does not accept is visited. -/
def HasInvalidCast (e : Expr) : Prop :=
  ∃ inner type fault, Visited e (.cast inner type) ∧ type.validate = .error fault

/-- An item of a select list is visited below its own label. -/
def unlabeled : Expr → Expr
  | .label e _ => e
  | e => e

/-- An expression has an invalid cast if it is one or one of its written parts
has one. -/
theorem hasInvalidCast_iff {e : Expr} :
    e.HasInvalidCast ↔
      (∃ inner type fault, e = .cast inner type ∧ type.validate = .error fault) ∨
        ∃ part ∈ e.writtenParts, part.HasInvalidCast := by
  constructor
  · rintro ⟨inner, type, fault, visited, invalid⟩
    cases visited with
    | self => exact .inl ⟨inner, type, fault, rfl, invalid⟩
    | inside written below => exact .inr ⟨_, written, inner, type, fault, below, invalid⟩
  · rintro (⟨inner, type, fault, rfl, invalid⟩ | ⟨part, written, inner, type, fault, below, invalid⟩)
    · exact ⟨inner, type, fault, .self _, invalid⟩
    · exact ⟨inner, type, fault, .inside written below, invalid⟩

/-- A type passes its check exactly if it has no fault. -/
theorem checkType_eq_ok_iff {type : ColumnType} :
    checkType type = .ok () ↔ ¬ ∃ fault, type.validate = .error fault := by
  rw [checkType]
  cases type.validate <;> simp [Except.mapError]

@[simp] theorem fault_parenthesized {condition : Bool} {fragment : Fragment} :
    (parenthesized condition fragment).fault = none ↔ fragment.fault = none := by
  cases condition <;> simp [parenthesized]

variable (spelling : Spelling)

mutual

/-- An expression can be written unless it visits an invalid cast. -/
theorem sql_complete_iff : ∀ e : Expr, (e.sql spelling).fault = none ↔ ¬ e.HasInvalidCast
  | .column _ _ => by
      rw [hasInvalidCast_iff]
      simp [sql, writtenParts]
  | .star => by
      rw [hasInvalidCast_iff]
      simp [sql, writtenParts]
  | .literal _ => by
      rw [hasInvalidCast_iff]
      simp [sql, writtenParts]
  | .bind _ _ => by
      rw [hasInvalidCast_iff]
      simp [sql, writtenParts]
  | .label _ _ => by
      rw [hasInvalidCast_iff]
      simp [sql, writtenParts]
  | .raw _ => by
      rw [hasInvalidCast_iff]
      simp [sql, writtenParts]
  | .function _ args => by
      rw [hasInvalidCast_iff]
      simp [sql, writtenParts, sqlList_complete_iff args]
  | .binary left _ right => by
      rw [hasInvalidCast_iff]
      simp [sql, writtenParts, sql_complete_iff left, sql_complete_iff right]
  | .not e => by
      rw [hasInvalidCast_iff]
      simp [sql, writtenParts, sql_complete_iff e]
  | .isNull e _ => by
      rw [hasInvalidCast_iff]
      simp [sql, writtenParts, sql_complete_iff e]
  | .inList e list _ => by
      rw [hasInvalidCast_iff]
      cases list with
      | nil => simp [sql, writtenParts]
      | cons first rest =>
          have items := sqlList_complete_iff (first :: rest)
          simp only [List.forall_mem_cons] at items
          simp [sql, writtenParts, sql_complete_iff e, items]
  | .distinctFrom left right _ => by
      rw [hasInvalidCast_iff]
      simp [sql, writtenParts, sql_complete_iff left, sql_complete_iff right]
  | .tuple items => by
      rw [hasInvalidCast_iff]
      simp [sql, writtenParts, sqlList_complete_iff items]
  | .extract field e => by
      rw [hasInvalidCast_iff]
      simp only [sql]
      cases extractFunction? field <;> simp [writtenParts, sql_complete_iff e]
  | .cast e type => by
      rw [hasInvalidCast_iff]
      simp [sql, writtenParts, sql_complete_iff e, checkType_eq_ok_iff]
  | .lambda _ body => by
      rw [hasInvalidCast_iff]
      simp [sql, writtenParts, sql_complete_iff body]

/-- The same for each member of a list. -/
theorem sqlList_complete_iff : ∀ list : List Expr,
    (∀ fragment ∈ sqlList spelling list, fragment.fault = none) ↔
      ∀ e ∈ list, ¬ e.HasInvalidCast
  | [] => by simp [sqlList]
  | e :: rest => by
      rw [sqlList, List.forall_mem_cons, List.forall_mem_cons, sql_complete_iff e,
        sqlList_complete_iff rest]

end

/-- An item of a select list is complete unless the expression below its label
has an invalid cast. -/
theorem labeledSql_complete_iff (e : Expr) :
    (e.labeledSql spelling).fault = none ↔ ¬ e.unlabeled.HasInvalidCast := by
  rw [← sql_complete_iff spelling, labeledSql.eq_def, unlabeled.eq_def]
  split <;> simp

/-- A list of expressions is complete unless one of them has an invalid cast. -/
theorem listSql_complete_iff (list : List Expr) :
    (listSql spelling list).fault = none ↔ ∀ e ∈ list, ¬ e.HasInvalidCast := by
  simp [listSql, sql_complete_iff]

theorem labeledListSql_complete_iff (list : List Expr) :
    (labeledListSql spelling list).fault = none ↔ ∀ e ∈ list, ¬ e.unlabeled.HasInvalidCast := by
  simp [labeledListSql, labeledSql_complete_iff]

end Expr

/-! ### Queries -/

/-- The conditions that a join writes. -/
def JoinConstraint.conditions : JoinConstraint → List Expr
  | .on predicate => [predicate]
  | .using _ => []

namespace Select

/-- The expressions that a query writes. -/
def writtenExprs (query : Select) : List Expr :=
  query.columns.map Expr.unlabeled ++
    query.arrayJoin.toList.flatMap (fun clause => clause.columns.map Expr.unlabeled) ++
    query.joins.flatMap (fun join => join.constraint.conditions) ++
    query.filter.toList ++ query.groupBy ++ query.having.toList ++
    query.orderBy.map OrderItem.expr ++
    query.limitBy.toList.flatMap LimitBy.keys

/-- What makes it impossible to write a query. -/
inductive Refused (query : Select) : Prop where
  | totals (asked : query.totals = true) (ungrouped : query.groupBy = [])
  | offset {n : UInt64} (given : query.offset = some n) (unlimited : query.limit = none)
  | final (asked : query.isFinal = true) (noSource : query.source = none)
  | sample {sample : Sample} (asked : query.sample = some sample) (noSource : query.source = none)
  | arrayJoin {clause : ArrayJoin} (given : query.arrayJoin = some clause)
      (empty : clause.columns = [])
  | limitBy {clause : LimitBy} (given : query.limitBy = some clause) (empty : clause.keys = [])
  | cast {e : Expr} (written : e ∈ query.writtenExprs) (invalid : e.HasInvalidCast)

variable (spelling : Spelling) (query : Select)

/-- A query passes its check unless totals lack groups or an offset lacks a
limit. -/
theorem check_eq_ok_iff :
    query.check = .ok () ↔
      ¬ (query.totals = true ∧ query.groupBy = []) ∧
        ¬ (query.offset.isSome = true ∧ query.limit = none) := by
  rw [check]
  split
  · rename_i ungrouped
    simp_all
  · split
    · rename_i unlimited
      simp_all
    · simp_all

/-- A select list is complete unless one of its expressions has an invalid
cast. -/
theorem columnsSql_complete_iff :
    (columnsSql spelling query).fault = none ↔
      ∀ e ∈ query.columns, ¬ e.unlabeled.HasInvalidCast := by
  rw [columnsSql, Fragment.fault_append_eq_none_iff, Fragment.fault_text]
  by_cases empty : query.columns = []
  · simp [empty]
  · simp [empty, Expr.labeledListSql_complete_iff]

/-- Without a table, a query may have neither FINAL nor a sample. -/
theorem sourceSql_complete_iff :
    query.sourceSql.fault = none ↔
      (query.source = none → query.isFinal = false ∧ query.sample = none) := by
  rw [sourceSql]
  cases query.source with
  | some table => simp [Sample.sql]
  | none => cases query.isFinal <;> cases query.sample <;> simp

end Select

/-- An array join needs columns, and none with an invalid cast. -/
theorem ArrayJoin.sql_complete_iff (spelling : Spelling) (clause : ArrayJoin) :
    (clause.sql spelling).fault = none ↔
      clause.columns ≠ [] ∧ ∀ e ∈ clause.columns, ¬ e.unlabeled.HasInvalidCast := by
  rw [ArrayJoin.sql]
  split
  · rename_i empty
    simp [List.isEmpty_iff.mp empty]
  · rename_i nonempty
    simp [Expr.labeledListSql_complete_iff, List.isEmpty_iff.not.mp nonempty]

/-- A limit can always be written. -/
theorem limitSql_complete (offset : Option UInt64) (limit : UInt64) :
    (limitSql offset limit).fault = none := by
  simp [limitSql]

/-- The limit of groups needs keys, and none with an invalid cast. -/
theorem LimitBy.sql_complete_iff (spelling : Spelling) (clause : LimitBy) :
    (clause.sql spelling).fault = none ↔
      clause.keys ≠ [] ∧ ∀ e ∈ clause.keys, ¬ e.HasInvalidCast := by
  rw [LimitBy.sql]
  split
  · rename_i empty
    simp [List.isEmpty_iff.mp empty]
  · rename_i nonempty
    simp [Expr.listSql_complete_iff, limitSql_complete, List.isEmpty_iff.not.mp nonempty]

/-- A join fails only by an invalid cast in its condition. -/
theorem Join.sql_complete_iff (spelling : Spelling) (join : Join) :
    (join.sql spelling).fault = none ↔ ∀ e ∈ join.constraint.conditions, ¬ e.HasInvalidCast := by
  rw [Join.sql]
  cases join.constraint <;>
    simp [JoinConstraint.sql, JoinConstraint.conditions, Expr.sql_complete_iff]

/-- Settings can always be written. -/
theorem settingsSql_complete (doubled : Bool) (settings : List Setting) :
    (settingsSql doubled settings).fault = none := by
  rw [settingsSql]
  split <;> rfl

namespace Select

variable (spelling : Spelling) (query : Select)

theorem joinsSql_complete_iff (joins : List Join) :
    (joinsSql spelling joins).fault = none ↔
      ∀ join ∈ joins, ∀ e ∈ join.constraint.conditions, ¬ e.HasInvalidCast := by
  induction joins with
  | nil => simp [joinsSql]
  | cons join rest inductionHypothesis =>
      simp [joinsSql, Join.sql_complete_iff, inductionHypothesis]

theorem groupSql_complete_iff :
    (groupSql spelling query).fault = none ↔ ∀ e ∈ query.groupBy, ¬ e.HasInvalidCast := by
  rw [groupSql]
  split
  · rename_i empty
    simp [List.isEmpty_iff.mp empty]
  · simp [Expr.listSql_complete_iff]

theorem orderSql_complete_iff :
    (orderSql spelling query).fault = none ↔
      ∀ item ∈ query.orderBy, ¬ item.expr.HasInvalidCast := by
  rw [orderSql]
  split
  · rename_i empty
    simp [List.isEmpty_iff.mp empty]
  · simp [OrderItem.sql, Expr.sql_complete_iff]

/-- What holds of all expressions that a query writes, clause by clause. -/
theorem forall_mem_writtenExprs_iff {Property : Expr → Prop} :
    (∀ e ∈ query.writtenExprs, Property e) ↔
      (∀ e ∈ query.columns, Property e.unlabeled) ∧
        (∀ clause, query.arrayJoin = some clause → ∀ e ∈ clause.columns, Property e.unlabeled) ∧
        (∀ join ∈ query.joins, ∀ e ∈ join.constraint.conditions, Property e) ∧
        (∀ e, query.filter = some e → Property e) ∧
        (∀ e ∈ query.groupBy, Property e) ∧
        (∀ e, query.having = some e → Property e) ∧
        (∀ item ∈ query.orderBy, Property item.expr) ∧
        (∀ clause, query.limitBy = some clause → ∀ e ∈ clause.keys, Property e) := by
  simp only [writtenExprs, List.forall_mem_append, List.forall_mem_map, List.forall_mem_flatMap,
    Option.mem_toList, and_assoc]

/-- A query can be written unless something makes it impossible. -/
theorem sql_complete_iff : (query.sql spelling).fault = none ↔ ¬ query.Refused := by
  simp only [sql, Fragment.fault_guarded_eq_none_iff, Fragment.fault_append_eq_none_iff,
    Fragment.fault_ofOption_eq_none_iff, Fragment.fault_text, true_and, check_eq_ok_iff,
    columnsSql_complete_iff, sourceSql_complete_iff, ArrayJoin.sql_complete_iff,
    joinsSql_complete_iff, Expr.sql_complete_iff, groupSql_complete_iff, orderSql_complete_iff,
    LimitBy.sql_complete_iff, limitSql_complete, settingsSql_complete, implies_true, and_true,
    and_assoc]
  constructor
  · rintro ⟨grouped, limited, columns, source, arrayJoin, joins, filter, group, having, order,
      limitBy⟩ refused
    cases refused with
    | totals asked ungrouped => exact grouped ⟨asked, ungrouped⟩
    | offset given unlimited => exact limited ⟨by simp [given], unlimited⟩
    | final asked noSource => simp [(source noSource).1] at asked
    | sample asked noSource => simp [(source noSource).2] at asked
    | arrayJoin given empty => exact (arrayJoin _ given).1 empty
    | limitBy given empty => exact (limitBy _ given).1 empty
    | cast written invalid =>
        have valid := query.forall_mem_writtenExprs_iff.mpr
          ⟨columns, fun clause given => (arrayJoin clause given).2, joins, filter, group, having,
            order, fun clause given => (limitBy clause given).2⟩
        exact valid _ written invalid
  · intro accepted
    obtain ⟨columns, arrayJoin, joins, filter, group, having, order, limitBy⟩ :=
      query.forall_mem_writtenExprs_iff.mp fun e written invalid => accepted (.cast written invalid)
    refine ⟨?totals, ?offset, columns, ?source, ?arrayJoin, joins, filter, group, having, order,
      ?limitBy⟩
    case totals => exact fun both => accepted (.totals both.1 both.2)
    case offset =>
      rintro ⟨given, unlimited⟩
      obtain ⟨n, given⟩ := Option.isSome_iff_exists.mp given
      exact accepted (.offset given unlimited)
    case source =>
      intro noSource
      constructor
      · rw [Bool.eq_false_iff]
        exact fun asked => accepted (.final asked noSource)
      · rw [Option.eq_none_iff_forall_not_mem]
        exact fun sample asked => accepted (.sample asked noSource)
    case arrayJoin =>
      exact fun clause given => ⟨fun empty => accepted (.arrayJoin given empty), arrayJoin clause given⟩
    case limitBy =>
      exact fun clause given => ⟨fun empty => accepted (.limitBy given empty), limitBy clause given⟩

end Select

/-! ### Deletions -/

/-- What makes it impossible to write a deletion. -/
inductive Delete.Refused (capabilities : Capabilities) (deletion : Delete) : Prop where
  | unsupported (unable : capabilities.supportsDelete = false)
  | unfiltered (noFilter : deletion.filter = none)
  | cast {e : Expr} (filtered : deletion.filter = some e) (invalid : e.HasInvalidCast)

/-- A deletion is complete exactly if nothing makes it impossible. -/
theorem Delete.sql_complete_iff (capabilities : Capabilities) (spelling : Spelling)
    (deletion : Delete) :
    (deletion.sql capabilities spelling).fault = none ↔ ¬ deletion.Refused capabilities := by
  rw [Delete.sql]
  cases able : capabilities.supportsDelete with
  | false => simp [Refused.unsupported able]
  | true =>
      cases filtered : deletion.filter with
      | none => simp [Refused.unfiltered filtered]
      | some e =>
          simp only [Bool.not_true, Bool.false_eq_true, if_false,
            Fragment.fault_append_eq_none_iff, Fragment.fault_text, true_and,
            Expr.sql_complete_iff]
          constructor
          · intro valid refused
            cases refused with
            | unsupported unable => simp [able] at unable
            | unfiltered noFilter => simp [filtered] at noFilter
            | cast found invalid =>
                rw [filtered] at found
                cases found
                exact valid invalid
          · exact fun accepted invalid => accepted (.cast filtered invalid)

/-! ### Creation of tables -/

/-- The expressions that the declaration of an engine writes. -/
def Engine.writtenExprs (engine : Engine) : List Expr :=
  engine.args ++ engine.partitionBy.toList.flatten ++ engine.orderBy.toList.flatten ++
    engine.primaryKey.toList.flatten ++ engine.sampleBy.toList.flatten ++ engine.ttl.map Ttl.expr

/-- What makes it impossible to write the creation of a table. -/
inductive CreateTable.Refused (creation : CreateTable) : Prop where
  | noEngine (missing : creation.table.engine = none)
  | noColumns (empty : creation.table.columns = [])
  | columnType {column : Column} {fault : TypeFault} (declared : column ∈ creation.table.columns)
      (invalid : column.type.validate = .error fault)
  | defaultCast {column : Column} {e : Expr} (declared : column ∈ creation.table.columns)
      (given : column.default = some e) (invalid : e.HasInvalidCast)
  | engineCast {engine : Engine} {e : Expr} (given : creation.table.engine = some engine)
      (written : e ∈ engine.writtenExprs) (invalid : e.HasInvalidCast)

/-- A column is complete if its type is valid and its default has no invalid
cast. -/
theorem Column.sql_complete_iff (spelling : Spelling) (column : Column) :
    (column.sql spelling).fault = none ↔
      (¬ ∃ fault, column.type.validate = .error fault) ∧
        ∀ e, column.default = some e → ¬ e.HasInvalidCast := by
  simp [Column.sql, Expr.checkType_eq_ok_iff, Expr.sql_complete_iff]

theorem Engine.keySql_complete_iff (spelling : Spelling) (words : String) (slot : Option Key) :
    (keySql spelling words slot).fault = none ↔
      ∀ e ∈ slot.toList.flatten, ¬ e.HasInvalidCast := by
  match slot with
  | none => simp [keySql]
  | some [] => simp [keySql]
  | some [e] => simp [keySql, Key.sql, Expr.sql_complete_iff]
  | some (e :: next :: rest) => simp [keySql, Key.sql, Expr.listSql_complete_iff]

theorem ttlListSql_complete_iff (spelling : Spelling) (entries : List Ttl) :
    (ttlListSql spelling entries).fault = none ↔ ∀ entry ∈ entries, ¬ entry.expr.HasInvalidCast := by
  simp [ttlListSql, Ttl.sql, Expr.sql_complete_iff]

/-- The declaration of an engine is complete unless one of its expressions has
an invalid cast. -/
theorem Engine.sql_complete_iff (spelling : Spelling) (engine : Engine) :
    (engine.sql spelling).fault = none ↔ ∀ e ∈ engine.writtenExprs, ¬ e.HasInvalidCast := by
  have ttl : (if engine.ttl.isEmpty then Fragment.empty
      else .text " TTL " ++ ttlListSql spelling engine.ttl).fault = none ↔
        ∀ entry ∈ engine.ttl, ¬ entry.expr.HasInvalidCast := by
    split
    · rename_i empty
      simp [List.isEmpty_iff.mp empty]
    · simp [ttlListSql_complete_iff]
  simp only [Engine.sql, Fragment.fault_append_eq_none_iff, Fragment.fault_text, true_and, and_true,
    Expr.listSql_complete_iff, keySql_complete_iff, ttl, settingsSql_complete, writtenExprs,
    List.forall_mem_append, List.forall_mem_map]

/-- The creation of a table is complete exactly if nothing makes it
impossible. -/
theorem CreateTable.sql_complete_iff (spelling : Spelling) (creation : CreateTable) :
    (creation.sql spelling).fault = none ↔ ¬ creation.Refused := by
  rw [CreateTable.sql]
  split
  · rename_i missing
    simp [Refused.noEngine missing]
  · rename_i engine given
    split
    · rename_i empty
      simp [Refused.noColumns (List.isEmpty_iff.mp empty)]
    · rename_i nonempty
      simp only [Fragment.fault_append_eq_none_iff, Fragment.fault_text, true_and, and_true,
        Fragment.fault_joinWith_eq_none_iff, List.forall_mem_map, Column.sql_complete_iff,
        Engine.sql_complete_iff]
      constructor
      · rintro ⟨columns, written⟩ refused
        cases refused with
        | noEngine missing => simp [given] at missing
        | noColumns empty => exact nonempty (List.isEmpty_iff.mpr empty)
        | columnType declared invalid => exact (columns _ declared).1 ⟨_, invalid⟩
        | defaultCast declared found invalid => exact (columns _ declared).2 _ found invalid
        | engineCast found member invalid =>
            rw [given] at found
            cases found
            exact written _ member invalid
      · intro accepted
        refine ⟨fun column declared => ⟨?_, ?_⟩, ?_⟩
        · rintro ⟨fault, invalid⟩
          exact accepted (.columnType declared invalid)
        · exact fun e found invalid => accepted (.defaultCast declared found invalid)
        · exact fun e member invalid => accepted (.engineCast given member invalid)

/-! ### Statements -/

/-- Compilation fails exactly on the statements that are refused, under all
options alike; the removal of a table never is. -/
theorem Statement.compile_fails_iff (capabilities : Capabilities) (options : CompileOptions) :
    (∀ query, (∃ error, compile capabilities options (.select query) = .error error) ↔
        query.Refused) ∧
      (∀ deletion, (∃ error, compile capabilities options (.delete deletion) = .error error) ↔
        deletion.Refused capabilities) ∧
      (∀ creation, (∃ error, compile capabilities options (.createTable creation) = .error error) ↔
        creation.Refused) ∧
      ∀ removal, ∃ compiled, compile capabilities options (.dropTable removal) = .ok compiled := by
  refine ⟨?query, ?deletion, ?creation, fun removal => ⟨_, rfl⟩⟩
  case query =>
    intro query
    rw [compile, Fragment.compiled_fails_iff, ne_eq, Select.sql_complete_iff, not_not]
  case deletion =>
    intro deletion
    rw [compile, Fragment.compiled_fails_iff, ne_eq, Delete.sql_complete_iff, not_not]
  case creation =>
    intro creation
    rw [compile, Fragment.compiled_fails_iff, ne_eq, CreateTable.sql_complete_iff, not_not]

end ColumnarSql
