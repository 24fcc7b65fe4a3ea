/-
Module: ColumnarSql.Proofs.BoundValues
Purpose: The values that statements bind, in the order in which they are
  written, and what may stand behind them.
Main exports:
  Expr.bound, Select.bound, Statement.bound, Fragment.Binds, Fragment.Clause,
  Expr.sql_binds, Select.sql_binds, Delete.sql_binds
-/
import ColumnarSql.Proofs.BindingModes
import Mathlib.Data.List.Chain

namespace ColumnarSql

open Text

/-! ### What a statement binds

The values that a statement binds are listed in the order in which they are
written.  Two things in an expression are never written: what a label names,
outside a select list, and what is looked for in an empty list. -/

namespace Expr

mutual

/-- The values that an expression binds, with their keys. -/
def bound : Expr → List (Option String × Value)
  | .bind key value => [(key, value)]
  | .function _ args => boundList args
  | .binary left _ right => bound left ++ bound right
  | .not e => bound e
  | .isNull e _ => bound e
  | .inList e list _ => if list.isEmpty then [] else bound e ++ boundList list
  | .distinctFrom left right _ => bound left ++ bound right
  | .tuple items => boundList items
  | .extract _ e => bound e
  | .cast e _ => bound e
  | .lambda _ body => bound body
  | .column _ _ => []
  | .star => []
  | .literal _ => []
  | .label _ _ => []
  | .raw _ => []

/-- The values that the expressions of a list bind. -/
def boundList : List Expr → List (Option String × Value)
  | [] => []
  | e :: rest => bound e ++ boundList rest

end

/-- The values that an item of a select list binds. -/
def labeledBound : Expr → List (Option String × Value)
  | .label e _ => bound e
  | e => bound e

end Expr

/-- A fraction and an offset are bound without keys. -/
def Sample.bound (clause : Sample) : List (Option String × Value) :=
  (none, clause.fraction) :: clause.offset.toList.map fun offset => (none, offset)

/-- The offset of a limit stands in front of it. -/
def limitBound (offset : Option UInt64) (limit : UInt64) : List (Option String × Value) :=
  offset.toList.map (fun n => (none, Value.ofUInt64 n)) ++ [(none, Value.ofUInt64 limit)]

/-- The limit is written in front of the expressions it speaks about. -/
def LimitBy.bound (clause : LimitBy) : List (Option String × Value) :=
  limitBound clause.offset clause.limit ++ clause.keys.flatMap Expr.bound

/-- The condition of a join may bind values, a list of columns does not. -/
def JoinConstraint.bound : JoinConstraint → List (Option String × Value)
  | .on predicate => predicate.bound
  | .using _ => []

/-- The values that a query binds, clause by clause. -/
def Select.bound (query : Select) : List (Option String × Value) :=
  query.columns.flatMap Expr.labeledBound ++
    query.sample.toList.flatMap Sample.bound ++
    query.arrayJoin.toList.flatMap (fun clause => clause.columns.flatMap Expr.labeledBound) ++
    query.joins.flatMap (fun join => join.constraint.bound) ++
    query.filter.toList.flatMap Expr.bound ++
    query.groupBy.flatMap Expr.bound ++
    query.having.toList.flatMap Expr.bound ++
    query.orderBy.flatMap (fun item => item.expr.bound) ++
    query.limitBy.toList.flatMap LimitBy.bound ++
    query.limit.toList.flatMap (limitBound query.offset)

/-- The values that a statement binds.  Rows travel beside the text, and where
tables are created or removed nothing is bound. -/
def Statement.bound : Statement → List (Option String × Value)
  | .select query => query.bound
  | .delete deletion => deletion.filter.toList.flatMap Expr.bound
  | .insert _ => []
  | .createTable _ => []
  | .dropTable _ => []

/-! ### Where placeholders end

A placeholder ends where the next piece starts.  So a text behind a bound value
must start with a character that cannot belong to a name. -/

/-- A text that starts outside names. -/
def startsOutside (s : String) : Bool :=
  s.toList.head?.any fun c => !isWordChar c

/-- How a text starts does not depend on what is written behind it. -/
theorem startsOutside_append {s : String} (outside : startsOutside s = true) (t : String) :
    startsOutside (s ++ t) = true := by
  unfold startsOutside at outside ⊢
  rw [String.toList_append, List.head?_append]
  cases start : s.toList.head? with
  | none => simp [start] at outside
  | some c => simpa [start] using outside

/-- A piece that ends the name in front of it. -/
def Piece.endsName : Piece → Bool
  | .text s => startsOutside s
  | .bound _ _ => true

/-- Neighbours of which the first, if it is bound, ends where the second
starts. -/
def Piece.Apart : Piece → Piece → Prop
  | .text _, _ => True
  | .bound _ _, next => next.endsName = true

/-- Pieces in a row bind the values of the first ones, then those of the
others. -/
theorem bindings_append (ps qs : List Piece) :
    bindings (ps ++ qs) = bindings ps ++ bindings qs := by
  induction ps with
  | nil => rfl
  | cons piece rest inductionHypothesis =>
      cases piece with
      | text s => exact inductionHypothesis
      | bound key value =>
          rw [List.cons_append, bindings, bindings, inductionHypothesis, List.cons_append]

/-- A fragment that binds these values unless it stops at a fault, and in which
every placeholder ends where its name ends. -/
structure Fragment.Binds (values : List (Option String × Value)) (fragment : Fragment) : Prop where
  apart : fragment.pieces.IsChain Piece.Apart
  lists : fragment.fault = none → bindings fragment.pieces = values

/-- A fragment that may follow a bound value. -/
structure Fragment.Clause (values : List (Option String × Value)) (fragment : Fragment) : Prop
    extends Fragment.Binds values fragment where
  opens : ∀ piece ∈ fragment.pieces.head?, piece.endsName = true

namespace Fragment

variable {xs ys : List (Option String × Value)} {a b : Fragment}

namespace Binds

theorem empty : Binds [] empty :=
  ⟨.nil, fun _ => rfl⟩

/-- A fixed text binds nothing. -/
theorem text (s : String) : Binds [] (text s) :=
  ⟨.singleton _, fun _ => rfl⟩

/-- A single binding binds its value under its key. -/
theorem bind (key : Option String) (value : Value) : Binds [(key, value)] (bind key value) :=
  ⟨.singleton _, fun _ => rfl⟩

/-- A fragment that fails may be said to bind anything, since no statement comes
of it. -/
theorem fail (error : Error) : Binds xs (fail error) :=
  ⟨.nil, fun complete => nomatch complete⟩

/-- A check in front changes nothing of what is bound behind it. -/
theorem guarded (check : Except Error Unit) (binds : Binds xs a) : Binds xs (guarded check a) := by
  cases check with
  | ok _ => exact binds
  | error error => exact fail error

/-- Text alone binds nothing. -/
theorem ofIsText (isText : a.IsText) : Binds [] a := by
  obtain ⟨pieces, fault⟩ := a
  obtain ⟨-, unbound⟩ := isText
  induction pieces with
  | nil => exact ⟨.nil, fun _ => rfl⟩
  | cons piece rest inductionHypothesis =>
      obtain ⟨s, rfl⟩ := unbound piece (by simp)
      have tail := inductionHypothesis fun p member => unbound p (by simp [member])
      refine ⟨List.isChain_cons.mpr ⟨fun _ _ => trivial, tail.apart⟩, tail.lists⟩

/-- Fragments may stand next to each other if their neighbouring pieces
may. -/
theorem append_of_apart (first : Binds xs a) (second : Binds ys b)
    (joint : a.fault = none → ∀ p ∈ a.pieces.getLast?, ∀ q ∈ b.pieces.head?, Piece.Apart p q) :
    Binds (xs ++ ys) (a ++ b) := by
  cases stopped : a.fault with
  | some error =>
      rw [append_of_fault stopped]
      exact ⟨first.apart, fun complete => nomatch stopped.symm.trans complete⟩
  | none =>
      rw [append_of_complete stopped]
      refine ⟨first.apart.append second.apart (joint stopped), ?_⟩
      intro complete
      rw [bindings_append, first.lists stopped, second.lists complete]

/-- Text in front never runs into a placeholder. -/
theorem textAppend (s : String) (second : Binds ys b) : Binds ys (.text s ++ b) := by
  refine append_of_apart (text s) second ?_
  intro _ p last q _
  cases last
  trivial

/-- A clause may follow anything, since it ends the name of a placeholder before
it. -/
theorem clauseAppend (first : Binds xs a) (second : Clause ys b) : Binds (xs ++ ys) (a ++ b) := by
  refine append_of_apart first second.toBinds ?_
  intro _ p _ q next
  cases p with
  | text s => trivial
  | bound key value => exact second.opens q next

/-- Text that starts outside names may follow anything. -/
theorem appendText (first : Binds xs a) {s : String} (outside : startsOutside s = true) :
    Binds xs (a ++ .text s) := by
  have clause : Clause [] (.text s) := ⟨text s, fun piece only => by cases only; exact outside⟩
  simpa using first.clauseAppend clause

/-- Two fragments with a text between them that starts outside names. -/
theorem around (first : Binds xs a) {s : String} (outside : startsOutside s = true)
    (second : Binds ys b) : Binds (xs ++ ys) (a ++ .text s ++ b) := by
  refine append_of_apart (first.appendText outside) second ?_
  intro complete p last q _
  cases stopped : a.fault with
  | some error =>
      rw [append_of_fault stopped] at complete
      exact nomatch stopped.symm.trans complete
  | none =>
      rw [append_of_complete stopped, Fragment.text, List.getLast?_append_cons,
        List.getLast?_singleton] at last
      cases last
      trivial

/-- Joined fragments bind what each of them binds, in order, if the separator
ends names. -/
theorem joinWith {separator : String} (outside : startsOutside separator = true) :
    ∀ {values : List (List (Option String × Value))} {fragments : List Fragment},
      List.Forall₂ Binds values fragments → Binds values.flatten (joinWith separator fragments)
  | _, _, .nil => empty
  | _, _, .cons first .nil => by
      simpa [Fragment.joinWith] using first
  | _, _, .cons first (.cons second rest) =>
      first.around outside (joinWith outside (.cons second rest))

/-- A list written item by item binds the values of its items, in order. -/
theorem joinMap {α : Type} {separator : String} (outside : startsOutside separator = true)
    {values : α → List (Option String × Value)} {write : α → Fragment}
    (binds : ∀ item, Binds (values item) (write item)) (list : List α) :
    Binds (list.flatMap values) (Fragment.joinWith separator (list.map write)) := by
  rw [List.flatMap]
  refine joinWith outside ?_
  rw [List.forall₂_map_left_iff, List.forall₂_map_right_iff, List.forall₂_same]
  intro item _
  exact binds item

end Binds

namespace Clause

theorem empty : Clause [] empty :=
  ⟨.empty, fun _ first => nomatch first⟩

theorem fail (error : Error) : Clause xs (fail error) :=
  ⟨.fail error, fun _ first => nomatch first⟩

theorem text {s : String} (outside : startsOutside s = true) : Clause [] (text s) :=
  ⟨.text s, fun piece only => by cases only; exact outside⟩

theorem textIf (condition : Bool) {s : String} (outside : startsOutside s = true) :
    Clause [] (textIf condition s) := by
  cases condition with
  | true => exact text outside
  | false => exact empty

/-- A fragment behind a text that starts outside names is a clause. -/
theorem textAppend {s : String} (outside : startsOutside s = true) (second : Binds ys b) :
    Clause ys (.text s ++ b) :=
  ⟨second.textAppend s, fun piece only => by cases only; exact outside⟩

/-- Two clauses in a row are a clause. -/
theorem append (first : Clause xs a) (second : Clause ys b) : Clause (xs ++ ys) (a ++ b) := by
  refine ⟨first.toBinds.clauseAppend second, ?_⟩
  cases stopped : a.fault with
  | some error =>
      rw [append_of_fault stopped]
      exact first.opens
  | none =>
      rw [append_of_complete stopped, List.head?_append]
      intro piece start
      cases found : a.pieces.head? with
      | some head =>
          rw [found, Option.some_or] at start
          exact first.opens piece (found ▸ start)
      | none =>
          rw [found, Option.none_or] at start
          exact second.opens piece start

/-- An optional clause is a clause, with no values where it is absent. -/
theorem ofOption {α : Type} {values : α → List (Option String × Value)} {write : α → Fragment}
    (clause : ∀ item, Clause (values item) (write item)) (option : Option α) :
    Clause (option.toList.flatMap values) (ofOption write option) := by
  cases option with
  | none => exact empty
  | some item => simpa [Fragment.ofOption] using clause item

end Clause

end Fragment

/-! ### Every writer binds what it should -/

section Writers

open Fragment

variable (spelling : Spelling)

/-- Parentheses bind nothing, and a closing one ends the name of a
placeholder. -/
theorem Expr.parenthesized_binds (condition : Bool) {xs : List (Option String × Value)}
    {fragment : Fragment} (binds : Binds xs fragment) :
    Binds xs (parenthesized condition fragment) := by
  cases condition with
  | true => exact (binds.textAppend _).appendText rfl
  | false => exact binds

mutual

/-- An expression binds the values listed for it. -/
theorem Expr.sql_binds : ∀ e : Expr, Binds e.bound (e.sql spelling)
  | .column _ _ => .text _
  | .star => .text _
  | .literal _ => .text _
  | .bind key value => .bind key value
  | .label _ _ => .text _
  | .function _ args => ((Expr.sqlList_binds args).textAppend _).appendText rfl
  | .binary left _ right =>
      (Expr.parenthesized_binds _ (Expr.sql_binds left)).around
        (startsOutside_append (startsOutside_append rfl _) _)
        (Expr.parenthesized_binds _ (Expr.sql_binds right))
  | .not e => (Expr.parenthesized_binds _ (Expr.sql_binds e)).textAppend _
  | .isNull e negated => (Expr.sql_binds e).appendText (by cases negated <;> rfl)
  | .inList e list negated => by
      simp only [Expr.sql, Expr.bound]
      split
      · exact .text _
      · exact ((Expr.sql_binds e).around (by cases negated <;> rfl)
          (Expr.sqlList_binds list)).appendText rfl
  | .distinctFrom left right negated =>
      (((Expr.sql_binds left).textAppend _).around rfl (Expr.sql_binds right)).appendText
        (by cases negated <;> rfl)
  | .tuple items => ((Expr.sqlList_binds items).textAppend _).appendText rfl
  | .extract field e => by
      simp only [Expr.sql, Expr.bound]
      cases extractFunction? field with
      | some call => exact ((Expr.sql_binds e).textAppend _).appendText rfl
      | none => exact Expr.sql_binds e
  | .cast e type => .guarded _ (((Expr.sql_binds e).textAppend _).appendText
      (startsOutside_append (startsOutside_append rfl _) _))
  | .lambda _ body => (Expr.sql_binds body).textAppend _
  | .raw _ => .text _

/-- So do expressions with commas between them. -/
theorem Expr.sqlList_binds :
    ∀ list : List Expr, Binds (Expr.boundList list) (.joinWith ", " (Expr.sqlList spelling list))
  | [] => .empty
  | [e] => by simpa [Expr.boundList, Expr.sqlList, Fragment.joinWith] using Expr.sql_binds e
  | e :: next :: rest => (Expr.sql_binds e).around rfl (Expr.sqlList_binds (next :: rest))

end

/-- A list of expressions binds what its members bind, in order. -/
theorem Expr.listSql_binds (list : List Expr) :
    Binds (list.flatMap Expr.bound) (Expr.listSql spelling list) :=
  .joinMap rfl (Expr.sql_binds spelling) list

/-- The label of an expression binds nothing. -/
theorem Expr.labeledSql_binds (e : Expr) : Binds e.labeledBound (e.labeledSql spelling) := by
  cases e with
  | label e name => exact (Expr.sql_binds spelling e).appendText (startsOutside_append rfl _)
  | _ => exact Expr.sql_binds spelling _

theorem Expr.labeledListSql_binds (list : List Expr) :
    Binds (list.flatMap Expr.labeledBound) (Expr.labeledListSql spelling list) :=
  .joinMap rfl (Expr.labeledSql_binds spelling) list

theorem ArrayJoin.sql_binds (clause : ArrayJoin) :
    Binds (clause.columns.flatMap Expr.labeledBound) (clause.sql spelling) := by
  unfold ArrayJoin.sql
  split
  · exact .fail _
  · exact (Expr.labeledListSql_binds spelling clause.columns).textAppend _

/-- A sample binds its fraction and then its offset. -/
theorem Sample.sql_binds (clause : Sample) : Binds clause.bound clause.sql := by
  obtain ⟨fraction, offset⟩ := clause
  have start := (Binds.bind none fraction).textAppend "SAMPLE "
  refine start.clauseAppend ?_
  cases offset with
  | none => exact .empty
  | some offset => exact .textAppend rfl (.bind none offset)

/-- A limit binds its offset first, then itself. -/
theorem limitSql_binds (offset : Option UInt64) (limit : UInt64) :
    Binds (limitBound offset limit) (limitSql offset limit) := by
  cases offset with
  | none => exact Binds.empty.append_of_apart (.bind none _) fun _ _ last => nomatch last
  | some n => exact (Binds.bind none _).around rfl (.bind none _)

/-- The limit of groups binds its numbers before its expressions. -/
theorem LimitBy.sql_binds (clause : LimitBy) : Binds clause.bound (clause.sql spelling) := by
  unfold LimitBy.sql
  split
  · exact .fail _
  · exact ((limitSql_binds clause.offset clause.limit).textAppend _).around rfl
      (Expr.listSql_binds spelling clause.keys)

/-- An item of an order binds what its expression binds. -/
theorem OrderItem.sql_binds (item : OrderItem) : Binds item.expr.bound (item.sql spelling) := by
  have direction : Clause [] (Fragment.ofOption (fun d : SortOrder => .text d.text)
      item.direction) := by
    cases item.direction with
    | none => exact .empty
    | some order => exact .text (by cases order <;> rfl)
  have whole := (Expr.sql_binds spelling item.expr).clauseAppend direction
  rwa [List.append_nil] at whole

/-- Something optional that is written as text is text. -/
theorem isText_ofOption {α : Type} (text : α → String) (option : Option α) :
    (Fragment.ofOption (fun item => .text (text item)) option).IsText := by
  cases option with
  | none => exact ⟨rfl, by simp [Fragment.ofOption, Fragment.empty]⟩
  | some item => exact .text _

/-- A join binds what its condition binds. -/
theorem Join.sql_binds (join : Join) : Binds join.constraint.bound (join.sql spelling) := by
  have words : Fragment.IsText
      (Fragment.ofOption (fun d : Distribution => .text (d.text ++ " ")) join.spec.distribution ++
        Fragment.ofOption (fun s : Strictness => .text (s.text ++ " ")) join.spec.strictness ++
        .text ((join.spec.kind.getD .inner).text ++ " JOIN " ++ identifierText join.table)) :=
    ((isText_ofOption _ _).append (isText_ofOption _ _)).append (.text _)
  have condition : Clause join.constraint.bound (join.constraint.sql spelling) := by
    rcases join.constraint with predicate | columns
    · exact .textAppend rfl (Expr.sql_binds spelling predicate)
    · exact .text (startsOutside_append (startsOutside_append rfl _) _)
  exact (Binds.ofIsText words).clauseAppend condition

namespace Select

theorem columnsSql_binds (query : Select) :
    Binds (query.columns.flatMap Expr.labeledBound) (columnsSql spelling query) := by
  refine .textAppend _ ?_
  split
  · rename_i noColumns
    rw [List.isEmpty_iff.mp noColumns]
    exact .text _
  · exact Expr.labeledListSql_binds spelling query.columns

theorem sourceSql_clause (query : Select) :
    Clause (query.sample.toList.flatMap Sample.bound) (sourceSql query) := by
  unfold sourceSql
  split
  · refine Clause.append (.append (.text (startsOutside_append rfl _)) (.textIf _ rfl)) ?_
    exact .ofOption (fun sample => .textAppend rfl sample.sql_binds) query.sample
  · split
    · exact .fail _
    · split
      · exact .fail _
      · rename_i noSample
        rw [Option.not_isSome_iff_eq_none.mp noSample]
        exact .empty

/-- Joins bind what their conditions bind, in order, and may follow a
placeholder. -/
theorem joinsSql_clause (joins : List Join) :
    Clause (joins.flatMap fun join => join.constraint.bound) (joinsSql spelling joins) := by
  induction joins with
  | nil => exact .empty
  | cons join rest inductionHypothesis =>
      exact (Clause.textAppend rfl (join.sql_binds spelling)).append inductionHypothesis

theorem groupSql_clause (query : Select) :
    Clause (query.groupBy.flatMap Expr.bound) (groupSql spelling query) := by
  unfold groupSql
  split
  · rename_i noGroups
    rw [List.isEmpty_iff.mp noGroups]
    exact .empty
  · simpa using (Clause.textAppend rfl (Expr.listSql_binds spelling query.groupBy)).append
      (.textIf query.totals rfl)

theorem orderSql_clause (query : Select) :
    Clause (query.orderBy.flatMap fun item => item.expr.bound) (orderSql spelling query) := by
  unfold orderSql
  split
  · rename_i noOrder
    rw [List.isEmpty_iff.mp noOrder]
    exact .empty
  · exact .textAppend rfl (.joinMap rfl (OrderItem.sql_binds spelling) query.orderBy)

/-- Settings are written out and bind nothing. -/
theorem settingsSql_clause (doubled : Bool) (settings : List Setting) :
    Clause [] (settingsSql doubled settings) := by
  unfold settingsSql
  split
  · exact .empty
  · exact .text (startsOutside_append rfl _)

/-- A query binds the values listed for it: every clause after the select list
starts with a space. -/
theorem sql_binds (query : Select) : Binds query.bound (query.sql spelling) := by
  have condition (words : String) (outside : startsOutside words = true) (filter : Option Expr) :
      Clause (filter.toList.flatMap Expr.bound)
        (Fragment.ofOption (fun e : Expr => .text words ++ e.sql spelling) filter) :=
    .ofOption (fun e => .textAppend outside (e.sql_binds spelling)) filter
  have clauses := (columnsSql_binds spelling query).clauseAppend (sourceSql_clause query)
    |>.clauseAppend (.ofOption (fun a => .textAppend (s := " ") rfl (a.sql_binds spelling))
      query.arrayJoin)
    |>.clauseAppend (joinsSql_clause spelling query.joins)
    |>.clauseAppend (condition " WHERE " rfl query.filter)
    |>.clauseAppend (groupSql_clause spelling query)
    |>.clauseAppend (condition " HAVING " rfl query.having)
    |>.clauseAppend (orderSql_clause spelling query)
    |>.clauseAppend (.ofOption (fun l => .textAppend (s := " ") rfl (l.sql_binds spelling))
      query.limitBy)
    |>.clauseAppend (.ofOption (fun n => .textAppend (s := " LIMIT ") rfl
      (limitSql_binds query.offset n)) query.limit)
    |>.clauseAppend (settingsSql_clause spelling.percentsDoubled query.settings)
  rw [List.append_nil] at clauses
  exact clauses.guarded query.check

end Select

/-- A deletion binds what its condition binds. -/
theorem Delete.sql_binds (capabilities : Capabilities) (deletion : Delete) :
    Binds (deletion.filter.toList.flatMap Expr.bound) (deletion.sql capabilities spelling) := by
  unfold Delete.sql
  split
  · exact .fail _
  · split
    · exact .fail _
    · rename_i filter found
      rw [found]
      simpa using (Expr.sql_binds spelling filter).textAppend _

end Writers

end ColumnarSql
