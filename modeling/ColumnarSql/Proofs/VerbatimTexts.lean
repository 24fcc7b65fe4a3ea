/-
Module: ColumnarSql.Proofs.VerbatimTexts
Purpose: The texts that statements write as they are.  Their percent signs are
  the only ones that writing does not double.
Main exports:
  Expr.verbatim, Statement.verbatim, Fragment.Doubles, Expr.sql_doubles,
  Select.sql_doubles, Delete.sql_doubles, CreateTable.sql_doubles
-/
import ColumnarSql.Proofs.FragmentLaws
import ColumnarSql.Proofs.PercentSigns
import ColumnarSql.Statement.Compile

namespace ColumnarSql

open Text

/-! ### Texts that are written as they are

Identifiers, names of functions and parameters of lambdas, names of types,
comments, targets of TTL entries, names of settings and raw SQL look the same
in every style. -/

namespace Expr

mutual

/-- The texts that an expression writes as they are. -/
def verbatim (qualified : Bool) : Expr → List String
  | .column table name => (if qualified then table.toList else []) ++ [name]
  | .label _ name => [name]
  | .function name args => name :: verbatimList qualified args
  | .binary left _ right => verbatim qualified left ++ verbatim qualified right
  | .not e => verbatim qualified e
  | .isNull e _ => verbatim qualified e
  | .inList e list _ =>
      if list.isEmpty then [] else verbatim qualified e ++ verbatimList qualified list
  | .distinctFrom left right _ => verbatim qualified left ++ verbatim qualified right
  | .tuple items => verbatimList qualified items
  | .extract _ e => verbatim qualified e
  | .cast e type => verbatim qualified e ++ [type.render]
  | .lambda param body => param :: verbatim qualified body
  | .raw sql => [sql]
  | .star => []
  | .literal _ => []
  | .bind _ _ => []

/-- The texts that the expressions of a list write as they are. -/
def verbatimList (qualified : Bool) : List Expr → List String
  | [] => []
  | e :: rest => verbatim qualified e ++ verbatimList qualified rest

end

/-- The texts that an item of a select list writes as they are. -/
def labeledVerbatim (qualified : Bool) : Expr → List String
  | .label e name => verbatim qualified e ++ [name]
  | e => verbatim qualified e

end Expr

/-- The columns of a join are identifiers. -/
def JoinConstraint.verbatim (qualified : Bool) : JoinConstraint → List String
  | .on predicate => predicate.verbatim qualified
  | .using columns => columns

/-- The texts that a query writes as they are, clause by clause. -/
def Select.verbatim (query : Select) : List String :=
  query.columns.flatMap (Expr.labeledVerbatim true) ++
    query.source.toList ++
    query.arrayJoin.toList.flatMap (fun a => a.columns.flatMap (Expr.labeledVerbatim true)) ++
    query.joins.flatMap (fun join => join.table :: join.constraint.verbatim true) ++
    query.filter.toList.flatMap (Expr.verbatim true) ++
    query.groupBy.flatMap (Expr.verbatim true) ++
    query.having.toList.flatMap (Expr.verbatim true) ++
    query.orderBy.flatMap (fun item => item.expr.verbatim true) ++
    query.limitBy.toList.flatMap (fun clause => clause.keys.flatMap (Expr.verbatim true)) ++
    query.settings.map Prod.fst

/-- The target of a TTL entry. -/
def TtlAction.verbatim : TtlAction → List String
  | .delete => []
  | .toDisk name => [name]
  | .toVolume name => [name]

/-- The texts that the declaration of an engine writes as they are. -/
def Engine.verbatim (engine : Engine) : List String :=
  let keys := fun key : Option Key => key.toList.flatMap (·.flatMap (Expr.verbatim false))
  engine.name :: engine.args.flatMap (Expr.verbatim false) ++ keys engine.partitionBy ++
    keys engine.orderBy ++ keys engine.primaryKey ++ keys engine.sampleBy ++
    engine.ttl.flatMap (fun entry =>
      entry.expr.verbatim false ++ entry.action.toList.flatMap TtlAction.verbatim) ++
    engine.settings.map Prod.fst

/-- The texts that the definition of a column writes as they are. -/
def Column.verbatim (column : Column) : List String :=
  [column.name, column.type.render] ++ column.default.toList.flatMap (Expr.verbatim false) ++
    column.comment.toList

/-- The texts that a statement writes as they are. -/
def Statement.verbatim : Statement → List String
  | .select query => query.verbatim
  | .insert insertion =>
      insertion.table.name ::
        if insertion.columns.isEmpty then insertion.table.columns.map Column.name
        else insertion.columns
  | .delete deletion =>
      deletion.table :: deletion.filter.toList.flatMap (Expr.verbatim false)
  | .createTable creation =>
      creation.table.name :: creation.table.columns.flatMap Column.verbatim ++
        creation.table.engine.toList.flatMap Engine.verbatim
  | .dropTable removal => [removal.table]

/-! ### Fragments -/

/-- The number of percent signs in the texts of pieces. -/
def textPercents : List Piece → Nat
  | [] => 0
  | .text s :: rest => percents s + textPercents rest
  | .bound _ _ :: rest => textPercents rest

/-- A piece with the percent signs of its text doubled. -/
def Piece.doubled : Piece → Piece
  | .text s => .text (doubledText s)
  | .bound key value => .bound key value

/-- Pieces in a row have the percent signs of both parts. -/
theorem textPercents_append (ps qs : List Piece) :
    textPercents (ps ++ qs) = textPercents ps + textPercents qs := by
  induction ps with
  | nil => simp [textPercents]
  | cons piece rest inductionHypothesis =>
      cases piece with
      | text s =>
          rw [List.cons_append, textPercents, textPercents, inductionHypothesis, Nat.add_assoc]
      | bound key value => exact inductionHypothesis

/-- Two writings of one fragment, without and with doubling.  All percent signs
are doubled but those in `names`. -/
structure Fragment.Doubles (names : List String) (a b : Fragment) : Prop where
  fault : a.fault = b.fault
  count : a.fault = none →
    textPercents b.pieces + percentsIn names = 2 * textPercents a.pieces
  doubles : a.fault = none → percentsIn names = 0 → b.pieces = a.pieces.map Piece.doubled

namespace Fragment.Doubles

variable {xs ys : List String} {a b a' b' : Fragment}

theorem empty : Doubles [] empty empty :=
  ⟨rfl, fun _ => rfl, fun _ _ => rfl⟩

/-- A fragment that fails may be said to lack any doubling, since no text comes
of it. -/
theorem fail (error : Error) : Doubles xs (fail error) (fail error) := by
  refine ⟨rfl, ?_, ?_⟩
  · intro complete
    cases complete
  · intro complete
    cases complete

theorem bind (key : Option String) (value : Value) :
    Doubles [] (bind key value) (bind key value) :=
  ⟨rfl, fun _ => rfl, fun _ _ => rfl⟩

/-- A text lacks the doubling in a fragment that it lacks by itself. -/
theorem text {s t : String} (doubles : DoublesText xs s t) : Doubles xs (text s) (text t) := by
  refine ⟨rfl, fun _ => doubles.count, ?_⟩
  intro _ free
  rw [doubles.doubles free]
  rfl

/-- A fixed text without percent signs needs no doubling. -/
theorem fixed {s : String} (free : percents s = 0) : Doubles [] (.text s) (.text s) :=
  text (.fixed free)

/-- Two fragments in a row lack the doubling that either of them lacks. -/
theorem append (first : Doubles xs a b) (second : Doubles ys a' b') :
    Doubles (xs ++ ys) (a ++ a') (b ++ b') := by
  cases stopped : a.fault with
  | some error =>
      have stopped' : b.fault = some error := first.fault ▸ stopped
      rw [append_of_fault stopped, append_of_fault stopped']
      refine ⟨first.fault, ?_, ?_⟩
      · intro complete
        cases stopped.symm.trans complete
      · intro complete
        cases stopped.symm.trans complete
  | none =>
      have complete' : b.fault = none := first.fault ▸ stopped
      rw [append_of_complete stopped, append_of_complete complete']
      refine ⟨second.fault, ?_, ?_⟩
      · intro complete
        have firstCount := first.count stopped
        have secondCount := second.count complete
        rw [textPercents_append, textPercents_append, percentsIn_append]
        omega
      · intro complete free
        rw [percentsIn_append] at free
        rw [first.doubles stopped (by omega), second.doubles complete (by omega), List.map_append]

theorem before (first : Doubles [] a b) (second : Doubles ys a' b') :
    Doubles ys (a ++ a') (b ++ b') :=
  first.append second

theorem after (first : Doubles xs a b) (second : Doubles [] a' b') :
    Doubles xs (a ++ a') (b ++ b') := by
  have whole := first.append second
  rwa [List.append_nil] at whole

/-- A check in front changes nothing of what is doubled behind it. -/
theorem guarded (check : Except Error Unit) (doubles : Doubles xs a b) :
    Doubles xs (guarded check a) (guarded check b) := by
  cases check with
  | ok _ => exact doubles
  | error error => exact fail error

/-- Items lack the doubling that each of them lacks, if the separator has no
percent sign. -/
theorem joinMap {α : Type} {separator : String} (free : percents separator = 0)
    {names : α → List String} {write write' : α → Fragment}
    (doubles : ∀ item, Doubles (names item) (write item) (write' item)) :
    ∀ list : List α, Doubles (list.flatMap names) (joinWith separator (list.map write))
      (joinWith separator (list.map write'))
  | [] => empty
  | [item] => by simpa [joinWith] using doubles item
  | item :: next :: rest =>
      ((doubles item).after (fixed free)).append (joinMap free doubles (next :: rest))

theorem ofOption {α : Type} {names : α → List String} {write write' : α → Fragment}
    (doubles : ∀ item, Doubles (names item) (write item) (write' item)) (option : Option α) :
    Doubles (option.toList.flatMap names) (ofOption write option) (ofOption write' option) := by
  cases option with
  | none => exact empty
  | some item => simpa [Fragment.ofOption] using doubles item

end Fragment.Doubles

/-! ### Every writer doubles all but its verbatim texts -/

theorem count_escapeIdentifier (s : List Char) :
    (escapeIdentifier s).count '%' = s.count '%' := by
  induction s with
  | nil => rfl
  | cons c rest inductionHypothesis =>
      rw [escapeIdentifier]
      split
      · rw [List.count_cons, List.count_cons, List.count_cons, inductionHypothesis]
        rfl
      · rw [List.count_cons, List.count_cons, inductionHypothesis]

/-- Quoting and escaping a name adds no percent sign. -/
theorem percents_identifierText (name : String) :
    percents (identifierText name) = percents name := by
  unfold identifierText
  split
  · rfl
  · simp [percents, List.count_append, count_escapeIdentifier]

theorem count_escapeString (s : List Char) : (escapeString s).count '%' = s.count '%' := by
  induction s with
  | nil => rfl
  | cons c rest inductionHypothesis =>
      rw [escapeString]
      split
      · rename_i letter escaped
        have plain : c ≠ '%' ∧ letter ≠ '%' := by
          grind [escapeLetter?]
        rw [List.count_cons_of_ne (by decide), List.count_cons_of_ne plain.2,
          List.count_cons_of_ne plain.1, inductionHypothesis]
      · rw [List.count_cons, List.count_cons, inductionHypothesis]

/-- Quoting and escaping a string adds no percent sign. -/
theorem percents_quotedString (s : String) : percents (quotedString s) = percents s := by
  simp [percents, quotedString, quoteChars, List.count_append, count_escapeString]

namespace DoublesText

theorem name (s : String) : DoublesText [s] s s :=
  verbatim rfl

/-- An identifier is written as it is, in either writing. -/
theorem identifier (s : String) : DoublesText [s] (identifierText s) (identifierText s) :=
  verbatim (percents_identifierText s)

/-- A string in quotes is written as it is, in either writing. -/
theorem quoted (s : String) : DoublesText [s] (quotedString s) (quotedString s) :=
  verbatim (percents_quotedString s)

end DoublesText

section Writers

open Fragment

variable (qualified : Bool)

/-- A column lacks the doubling of its name, and of its table where that is
written. -/
theorem columnText_doubles (table : Option String) (name : String) :
    DoublesText (Expr.verbatim qualified (.column table name))
      (columnText ⟨false, qualified⟩ table name) (columnText ⟨true, qualified⟩ table name) := by
  cases table with
  | none => cases qualified <;> exact .identifier name
  | some t =>
      cases qualified with
      | true => exact ((DoublesText.identifier t).append (.fixed rfl)).append (.identifier name)
      | false => exact .identifier name

/-- Parentheses need no doubling. -/
theorem Expr.parenthesized_doubles (condition : Bool) {xs : List String} {a b : Fragment}
    (doubles : Doubles xs a b) :
    Doubles xs (parenthesized condition a) (parenthesized condition b) := by
  cases condition with
  | true => exact (Doubles.before (.fixed rfl) doubles).after (.fixed rfl)
  | false => exact doubles

/-- The remainder is the only operator with a percent sign, and it is doubled.
-/
theorem BinaryOp.text_doubles (op : BinaryOp) : DoublesText [] (op.text false) (op.text true) := by
  cases op with
  | modulo => exact .ofDoubled "%"
  | _ => exact .fixed rfl

/-- The functions that extract fields have no percent signs in their names. -/
theorem percents_extractFunction? {field call : String}
    (found : extractFunction? field = some call) : percents (call ++ "(") = 0 := by
  simp only [extractFunction?] at found
  split at found
  · cases found
    rfl
  · split at found
    · cases found
      rfl
    · split at found
      · cases found
        rfl
      · cases found

mutual

/-- An expression doubles all percent signs but those in its verbatim
texts. -/
theorem Expr.sql_doubles : ∀ e : Expr,
    Doubles (e.verbatim qualified) (e.sql ⟨false, qualified⟩) (e.sql ⟨true, qualified⟩)
  | .column table name => .text (columnText_doubles qualified table name)
  | .star => .fixed rfl
  | .literal value => .text value.literal_doubles
  | .bind key value => .bind key value
  | .label _ name => .text (.identifier name)
  | .function name args =>
      ((Doubles.text ((DoublesText.name name).append (.fixed rfl))).append
        (Expr.sqlList_doubles args)).after (.fixed rfl)
  | .binary left op right =>
      ((Expr.parenthesized_doubles _ (Expr.sql_doubles left)).after
        (.text (((DoublesText.fixed rfl).append op.text_doubles).append (.fixed rfl)))).append
        (Expr.parenthesized_doubles _ (Expr.sql_doubles right))
  | .not e => Doubles.before (.fixed rfl) (Expr.parenthesized_doubles _ (Expr.sql_doubles e))
  | .isNull e negated => (Expr.sql_doubles e).after (.fixed (by cases negated <;> rfl))
  | .inList e list negated => by
      simp only [Expr.sql, Expr.verbatim]
      split
      · exact .fixed (by cases negated <;> rfl)
      · exact (((Expr.sql_doubles e).after (.fixed (by cases negated <;> rfl))).append
          (Expr.sqlList_doubles list)).after (.fixed rfl)
  | .distinctFrom left right negated =>
      (((Doubles.before (.fixed rfl) (Expr.sql_doubles left)).after (.fixed rfl)).append
        (Expr.sql_doubles right)).after (.fixed (by cases negated <;> rfl))
  | .tuple items =>
      (Doubles.before (.fixed (by split <;> rfl)) (Expr.sqlList_doubles items)).after (.fixed rfl)
  | .extract field e => by
      simp only [Expr.sql, Expr.verbatim]
      cases found : extractFunction? field with
      | some call =>
          refine (Doubles.before (.fixed ?_) (Expr.sql_doubles e)).after (.fixed rfl)
          exact percents_extractFunction? found
      | none => exact Expr.sql_doubles e
  | .cast e type =>
      .guarded _ ((Doubles.before (.fixed rfl) (Expr.sql_doubles e)).append
        (.text (((DoublesText.fixed rfl).append (.name type.render)).append (.fixed rfl))))
  | .lambda param body =>
      (Doubles.text ((DoublesText.name param).append (.fixed rfl))).append (Expr.sql_doubles body)
  | .raw sql => .text (.name sql)

/-- So do expressions with commas between them. -/
theorem Expr.sqlList_doubles : ∀ list : List Expr,
    Doubles (Expr.verbatimList qualified list)
      (.joinWith ", " (Expr.sqlList ⟨false, qualified⟩ list))
      (.joinWith ", " (Expr.sqlList ⟨true, qualified⟩ list))
  | [] => .empty
  | [e] => by
      simpa [Expr.verbatimList, Expr.sqlList, Fragment.joinWith] using Expr.sql_doubles e
  | e :: next :: rest =>
      ((Expr.sql_doubles e).after (.fixed rfl)).append (Expr.sqlList_doubles (next :: rest))

end

/-- A list of expressions lacks the doubling that its members lack. -/
theorem Expr.listSql_doubles (list : List Expr) :
    Doubles (list.flatMap (Expr.verbatim qualified)) (Expr.listSql ⟨false, qualified⟩ list)
      (Expr.listSql ⟨true, qualified⟩ list) :=
  .joinMap rfl (Expr.sql_doubles qualified) list

/-- A label is written as it is. -/
theorem Expr.labeledSql_doubles (e : Expr) :
    Doubles (e.labeledVerbatim qualified) (e.labeledSql ⟨false, qualified⟩)
      (e.labeledSql ⟨true, qualified⟩) := by
  cases e with
  | label e name =>
      exact (Expr.sql_doubles qualified e).append
        (.text ((DoublesText.fixed rfl).append (.identifier name)))
  | _ => exact Expr.sql_doubles qualified _

theorem Expr.labeledListSql_doubles (list : List Expr) :
    Doubles (list.flatMap (Expr.labeledVerbatim qualified))
      (Expr.labeledListSql ⟨false, qualified⟩ list) (Expr.labeledListSql ⟨true, qualified⟩ list) :=
  .joinMap rfl (Expr.labeledSql_doubles qualified) list

theorem ArrayJoin.sql_doubles (clause : ArrayJoin) :
    Doubles (clause.columns.flatMap (Expr.labeledVerbatim qualified))
      (clause.sql ⟨false, qualified⟩) (clause.sql ⟨true, qualified⟩) := by
  unfold ArrayJoin.sql
  split
  · exact .fail _
  · exact Doubles.before (.fixed (by split <;> rfl))
      (Expr.labeledListSql_doubles qualified clause.columns)

/-- A sample binds its values, and its words have no percent sign. -/
theorem Sample.sql_doubles (clause : Sample) : Doubles [] clause.sql clause.sql := by
  refine (Doubles.before (.fixed rfl) (.bind none _)).after ?_
  cases clause.offset with
  | none => exact .empty
  | some offset => exact Doubles.before (.fixed rfl) (.bind none offset)

theorem limitSql_doubles (offset : Option UInt64) (limit : UInt64) :
    Doubles [] (limitSql offset limit) (limitSql offset limit) := by
  refine Doubles.before ?_ (.bind none _)
  cases offset with
  | none => exact .empty
  | some n => exact Doubles.before (.bind none _) (.fixed rfl)

theorem LimitBy.sql_doubles (clause : LimitBy) :
    Doubles (clause.keys.flatMap (Expr.verbatim qualified)) (clause.sql ⟨false, qualified⟩)
      (clause.sql ⟨true, qualified⟩) := by
  unfold LimitBy.sql
  split
  · exact .fail _
  · exact (((Doubles.fixed rfl).after (limitSql_doubles clause.offset clause.limit)).after
      (.fixed rfl)).before (Expr.listSql_doubles qualified clause.keys)

theorem OrderItem.sql_doubles (item : OrderItem) :
    Doubles (item.expr.verbatim qualified) (item.sql ⟨false, qualified⟩)
      (item.sql ⟨true, qualified⟩) := by
  refine (Expr.sql_doubles qualified item.expr).after ?_
  cases item.direction with
  | none => exact .empty
  | some order => exact .fixed (by cases order <;> rfl)

/-- The names of settings are written as they are, their values are doubled. -/
theorem settingsText_doubles (settings : List Setting) :
    DoublesText (settings.map Prod.fst) (settingsText false settings)
      (settingsText true settings) := by
  have entry (setting : Setting) :
      DoublesText [setting.1] (setting.1 ++ "=" ++ setting.2.literal false)
        (setting.1 ++ "=" ++ setting.2.literal true) :=
    ((DoublesText.name setting.1).append (.fixed rfl)).append setting.2.literal_doubles
  rw [List.map_eq_flatMap]
  exact .joinMap rfl entry settings

theorem settingsSql_doubles (settings : List Setting) :
    Doubles (settings.map Prod.fst) (settingsSql false settings) (settingsSql true settings) := by
  unfold settingsSql
  split
  · rename_i noSettings
    rw [List.isEmpty_iff.mp noSettings]
    exact .empty
  · exact .text ((DoublesText.fixed rfl).append (settingsText_doubles settings))

/-- Listed identifiers are written as they are. -/
theorem identifiers_doubles (names : List String) :
    DoublesText names (joinWith ", " (names.map identifierText))
      (joinWith ", " (names.map identifierText)) := by
  have whole : DoublesText (names.flatMap fun name => [name])
      (joinWith ", " (names.map identifierText)) (joinWith ", " (names.map identifierText)) :=
    .joinMap rfl DoublesText.identifier names
  rwa [List.flatMap_singleton'] at whole

/-- A join lacks the doubling of its table and of its condition. -/
theorem Join.sql_doubles (join : Join) :
    Doubles (join.table :: join.constraint.verbatim qualified) (join.sql ⟨false, qualified⟩)
      (join.sql ⟨true, qualified⟩) := by
  have word {α : Type} (text : α → String) (free : ∀ item, percents (text item) = 0)
      (option : Option α) : Doubles [] (Fragment.ofOption (fun item => .text (text item)) option)
        (Fragment.ofOption (fun item => .text (text item)) option) := by
    cases option with
    | none => exact .empty
    | some item => exact .fixed (free item)
  have table : DoublesText [join.table]
      ((join.spec.kind.getD .inner).text ++ " JOIN " ++ identifierText join.table)
      ((join.spec.kind.getD .inner).text ++ " JOIN " ++ identifierText join.table) := by
    refine DoublesText.append (.append (.fixed ?_) (.fixed rfl)) (.identifier join.table)
    cases join.spec.kind.getD .inner <;> rfl
  have condition : Doubles (join.constraint.verbatim qualified)
      (join.constraint.sql ⟨false, qualified⟩) (join.constraint.sql ⟨true, qualified⟩) := by
    rcases join.constraint with predicate | columns
    · exact Doubles.before (.fixed rfl) (Expr.sql_doubles qualified predicate)
    · exact .text (((DoublesText.fixed rfl).append (identifiers_doubles columns)).after
        (.fixed rfl))
  have words := (word (fun d : Distribution => d.text ++ " ") (fun d => by cases d; rfl)
    join.spec.distribution).after (word (fun s : Strictness => s.text ++ " ")
    (fun s => by cases s <;> rfl) join.spec.strictness)
  exact (words.before (.text table)).append condition

namespace Select

theorem columnsSql_doubles (query : Select) :
    Doubles (query.columns.flatMap (Expr.labeledVerbatim qualified))
      (columnsSql ⟨false, qualified⟩ query) (columnsSql ⟨true, qualified⟩ query) := by
  refine Doubles.before (.fixed (by split <;> rfl)) ?_
  split
  · rename_i noColumns
    rw [List.isEmpty_iff.mp noColumns]
    exact .fixed rfl
  · exact Expr.labeledListSql_doubles qualified query.columns

theorem sourceSql_doubles (query : Select) :
    Doubles query.source.toList (sourceSql query) (sourceSql query) := by
  unfold sourceSql
  split
  · rename_i table found
    rw [found]
    refine ((Doubles.text ((DoublesText.fixed rfl).append (.identifier table))).after ?_).after ?_
    · cases query.isFinal with
      | true => exact .fixed rfl
      | false => exact .empty
    · cases query.sample with
      | none => exact .empty
      | some sample => exact Doubles.before (.fixed rfl) sample.sql_doubles
  · split
    · exact .fail _
    · split
      · exact .fail _
      · rename_i noSource _ _
        rw [noSource]
        exact .empty

theorem joinsSql_doubles (joins : List Join) :
    Doubles (joins.flatMap fun join => join.table :: join.constraint.verbatim qualified)
      (joinsSql ⟨false, qualified⟩ joins) (joinsSql ⟨true, qualified⟩ joins) := by
  induction joins with
  | nil => exact .empty
  | cons join rest inductionHypothesis =>
      exact (Doubles.before (.fixed rfl) (join.sql_doubles qualified)).append inductionHypothesis

theorem groupSql_doubles (query : Select) :
    Doubles (query.groupBy.flatMap (Expr.verbatim qualified)) (groupSql ⟨false, qualified⟩ query)
      (groupSql ⟨true, qualified⟩ query) := by
  unfold groupSql
  split
  · rename_i noGroups
    rw [List.isEmpty_iff.mp noGroups]
    exact .empty
  · refine (Doubles.before (.fixed rfl) (Expr.listSql_doubles qualified query.groupBy)).after ?_
    cases query.totals with
    | true => exact .fixed rfl
    | false => exact .empty

theorem orderSql_doubles (query : Select) :
    Doubles (query.orderBy.flatMap fun item => item.expr.verbatim qualified)
      (orderSql ⟨false, qualified⟩ query) (orderSql ⟨true, qualified⟩ query) := by
  unfold orderSql
  split
  · rename_i noOrder
    rw [List.isEmpty_iff.mp noOrder]
    exact .empty
  · exact Doubles.before (.fixed rfl) (.joinMap rfl (OrderItem.sql_doubles qualified) query.orderBy)

/-- A query doubles all percent signs but those in its verbatim texts. -/
theorem sql_doubles (query : Select) :
    Doubles query.verbatim (query.sql ⟨false, true⟩) (query.sql ⟨true, true⟩) := by
  have condition (words : String) (free : percents words = 0) (filter : Option Expr) :
      Doubles (filter.toList.flatMap (Expr.verbatim true))
        (Fragment.ofOption (fun e : Expr => .text words ++ e.sql ⟨false, true⟩) filter)
        (Fragment.ofOption (fun e : Expr => .text words ++ e.sql ⟨true, true⟩) filter) :=
    .ofOption (fun e => Doubles.before (.fixed free) (e.sql_doubles true)) filter
  have limit : Doubles []
      (Fragment.ofOption (fun n => .text " LIMIT " ++ limitSql query.offset n) query.limit)
      (Fragment.ofOption (fun n => .text " LIMIT " ++ limitSql query.offset n) query.limit) := by
    cases query.limit with
    | none => exact .empty
    | some n => exact Doubles.before (.fixed rfl) (limitSql_doubles query.offset n)
  refine .guarded query.check ?_
  exact (columnsSql_doubles true query).append (sourceSql_doubles query)
    |>.append (.ofOption (fun a => Doubles.before (.fixed rfl) (a.sql_doubles true)) query.arrayJoin)
    |>.append (joinsSql_doubles true query.joins)
    |>.append (condition " WHERE " rfl query.filter)
    |>.append (groupSql_doubles true query)
    |>.append (condition " HAVING " rfl query.having)
    |>.append (orderSql_doubles true query)
    |>.append (.ofOption (fun l => Doubles.before (.fixed rfl) (l.sql_doubles true)) query.limitBy)
    |>.after limit
    |>.append (settingsSql_doubles query.settings)

end Select

/-- A deletion lacks the doubling of its table and of its condition. -/
theorem Delete.sql_doubles (capabilities : Capabilities) (deletion : Delete) :
    Doubles (deletion.table :: deletion.filter.toList.flatMap (Expr.verbatim false))
      (deletion.sql capabilities ⟨false, false⟩) (deletion.sql capabilities ⟨true, false⟩) := by
  unfold Delete.sql
  split
  · exact .fail _
  · split
    · exact .fail _
    · rename_i filter found
      rw [found]
      have whole := (Doubles.text (((DoublesText.fixed (s := "ALTER TABLE ") rfl).append
        (.identifier deletion.table)).append (.fixed (s := " DELETE WHERE ") rfl))).append
        (Expr.sql_doubles false filter)
      rwa [← List.flatMap_singleton (Expr.verbatim false) filter] at whole

/-- The target of a move is written as it is. -/
theorem TtlAction.text_doubles (action : TtlAction) :
    DoublesText action.verbatim action.text action.text := by
  cases action with
  | delete => exact .fixed rfl
  | toDisk name => exact (DoublesText.fixed rfl).append (.quoted name)
  | toVolume name => exact (DoublesText.fixed rfl).append (.quoted name)

theorem Ttl.sql_doubles (entry : Ttl) :
    Doubles (entry.expr.verbatim false ++ entry.action.toList.flatMap TtlAction.verbatim)
      (entry.sql ⟨false, false⟩) (entry.sql ⟨true, false⟩) :=
  (Expr.sql_doubles false entry.expr).append
    (.ofOption (fun action => .text action.text_doubles) entry.action)

/-- A key lacks the doubling that its expressions lack. -/
theorem Key.sql_doubles (key : Key) :
    Doubles (key.flatMap (Expr.verbatim false)) (Key.sql ⟨false, false⟩ key)
      (Key.sql ⟨true, false⟩ key) := by
  unfold Key.sql
  split
  · rw [List.flatMap_singleton]
    exact Expr.sql_doubles false _
  · exact (Doubles.before (.fixed rfl) (Expr.listSql_doubles false key)).after (.fixed rfl)

theorem Engine.keySql_doubles {words : String} (free : percents words = 0) (key : Option Key) :
    Doubles (key.toList.flatMap fun key => key.flatMap (Expr.verbatim false))
      (keySql ⟨false, false⟩ words key) (keySql ⟨true, false⟩ words key) := by
  unfold Engine.keySql
  split
  · exact .empty
  · exact .empty
  · rename_i key _
    have start := ((DoublesText.fixed (s := " ") rfl).append (.fixed free)).append
      (.fixed (s := " ") rfl)
    have whole := (Doubles.text start).before (Key.sql_doubles key)
    rwa [← List.flatMap_singleton (fun key : Key => key.flatMap (Expr.verbatim false)) key]
      at whole

/-- The declaration of an engine doubles all percent signs but those in its
verbatim texts. -/
theorem Engine.sql_doubles (engine : Engine) :
    Doubles engine.verbatim (engine.sql ⟨false, false⟩) (engine.sql ⟨true, false⟩) := by
  have name := Doubles.text (((DoublesText.fixed (s := "ENGINE = ") rfl).append
    (.identifier engine.name)).append (.fixed (s := "(") rfl))
  have ttl : Doubles (engine.ttl.flatMap fun entry =>
        entry.expr.verbatim false ++ entry.action.toList.flatMap TtlAction.verbatim)
      (if engine.ttl.isEmpty then .empty
        else .text " TTL " ++ ttlListSql ⟨false, false⟩ engine.ttl)
      (if engine.ttl.isEmpty then .empty
        else .text " TTL " ++ ttlListSql ⟨true, false⟩ engine.ttl) := by
    split
    · rename_i noEntries
      rw [List.isEmpty_iff.mp noEntries]
      exact .empty
    · exact Doubles.before (.fixed rfl) (.joinMap rfl Ttl.sql_doubles engine.ttl)
  exact (name.append (Expr.listSql_doubles false engine.args)).after (.fixed rfl)
    |>.append (Engine.keySql_doubles rfl engine.partitionBy)
    |>.append (Engine.keySql_doubles rfl engine.orderBy)
    |>.append (Engine.keySql_doubles rfl engine.primaryKey)
    |>.append (Engine.keySql_doubles rfl engine.sampleBy)
    |>.append ttl
    |>.append (settingsSql_doubles engine.settings)

/-- A column of a new table lacks the doubling of its name, type, default and
comment. -/
theorem Column.sql_doubles (column : Column) :
    Doubles column.verbatim (column.sql ⟨false, false⟩) (column.sql ⟨true, false⟩) := by
  have comment : Doubles column.comment.toList
      (Fragment.ofOption (fun c => .text (" COMMENT " ++ quotedString c)) column.comment)
      (Fragment.ofOption (fun c => .text (" COMMENT " ++ quotedString c)) column.comment) := by
    cases column.comment with
    | none => exact .empty
    | some c => exact .text ((DoublesText.fixed rfl).append (.quoted c))
  refine .guarded _ (.append (.append (.text ?name) ?default) comment)
  case name =>
    exact ((DoublesText.identifier column.name).append (.fixed rfl)).append (.name column.type.render)
  case default =>
    exact .ofOption (fun e => Doubles.before (.fixed rfl) (e.sql_doubles false)) column.default

/-- The creation of a table doubles all percent signs but those in its verbatim
texts. -/
theorem CreateTable.sql_doubles (creation : CreateTable) :
    Doubles (Statement.createTable creation).verbatim (creation.sql ⟨false, false⟩)
      (creation.sql ⟨true, false⟩) := by
  unfold CreateTable.sql
  rw [Statement.verbatim]
  split
  · exact .fail _
  · rename_i engine found
    split
    · exact .fail _
    · rw [found]
      have start := Doubles.text ((((DoublesText.fixed (s := "CREATE TABLE ") rfl).append
        (.fixed (s := if creation.ifNotExists then "IF NOT EXISTS " else "") (by split <;> rfl))).append
        (.identifier creation.table.name)).append (.fixed (s := " (") rfl))
      have columns : Doubles (creation.table.columns.flatMap Column.verbatim)
          (.joinWith ", " (creation.table.columns.map (Column.sql ⟨false, false⟩)))
          (.joinWith ", " (creation.table.columns.map (Column.sql ⟨true, false⟩))) :=
        .joinMap rfl Column.sql_doubles creation.table.columns
      have whole := ((start.append columns).after (.fixed (s := ") ") rfl)).append
        engine.sql_doubles
      rwa [← List.flatMap_singleton Engine.verbatim engine] at whole

end Writers

end ColumnarSql
