/-
Module: ColumnarSql.Proofs.CompilationPass
Purpose: Compilation in one pass.  A writer that hands its parameters and its
  counters from step to step, and turns every bound value into text where it
  meets it, gives the same result as writing pieces first and spelling them
  afterwards.
Main exports:
  Pass, Writing, bindValue, Fragment.write, Fragment.write_append,
  Fragment.write_spells, Expr.write, Select.write, Delete.write,
  Expr.compile_eq_write, Select.compile_eq_write, Delete.compile_eq_write
-/
import ColumnarSql.Proofs.BindingModes

namespace ColumnarSql

open Text

/-! ### The state of a pass

A pass keeps the parameters given out so far and one counter for each base of a
name.  The counters can be told from the parameters, but a pass does not count
again: it looks its counter up. -/

/-- The parameters given out so far, and how many there are for each base. -/
structure Pass where
  params : List Parameter
  counts : String → Nat

/-- Every counter is the number of parameters with its base. -/
def Pass.Counted (pass : Pass) : Prop :=
  ∀ base, pass.counts base = pass.params.countP fun p => p.base == base

/-- A pass that has given out nothing. -/
def Pass.start : Pass :=
  ⟨[], fun _ => 0⟩

/-- Before anything is bound, nothing has been counted. -/
theorem Pass.counted_start : Pass.start.Counted := by
  intro base
  rfl

/-- Writing in a pass.  An error ends the writing, and the pass stays as it was
when the error arose. -/
abbrev Writing := ExceptT Error (StateM Pass)

/-- The text of a bound value: its literal, or the placeholder of a parameter
that is given out for it. -/
def bindValue (options : CompileOptions) (key : Option String) (value : Value) :
    Writing String :=
  if options.literalBinds then
    return value.literal options.style.percentsDoubled
  else do
    let pass ← get
    let base := Parameter.baseOf key
    let number := pass.counts base + 1
    let param : Parameter := ⟨base, number, value⟩
    set (Pass.mk (pass.params ++ [param])
      fun other => if other == base then number else pass.counts other)
    return options.style.placeholder param.name

/-- A step that succeeds is followed by the next one, in the pass it leaves. -/
theorem run_bind_of_ok {α β : Type} {action : Writing α} {next : α → Writing β}
    {pass after : Pass} {a : α} (ran : action pass = (.ok a, after)) :
    (action >>= next) pass = next a after := by
  simp only [Bind.bind, ExceptT.bind, ExceptT.mk, StateT.bind, ran]
  rfl

/-- A step of writing that, in any pass, gives the text or the error of a
fragment and leaves the parameters that spelling the fragment leaves. -/
def Spells (options : CompileOptions) (action : Writing String) (fragment : Fragment) : Prop :=
  ∀ pass : Pass, pass.Counted → ∃ after : Pass,
    action pass = ((fragment.spell options pass.params).1, after) ∧
      after.params = (fragment.spell options pass.params).2 ∧ after.Counted

/-- Giving out a parameter keeps the counters right. -/
theorem Pass.Counted.next {pass : Pass} (counted : pass.Counted) (key : Option String)
    (value : Value) :
    (Pass.mk (pass.params ++ [Parameter.next pass.params key value]) fun other =>
      if other == Parameter.baseOf key then pass.counts (Parameter.baseOf key) + 1
      else pass.counts other).Counted := by
  intro base
  rw [List.countP_append, List.countP_singleton, ← counted base]
  by_cases same : base = Parameter.baseOf key
  · simp [same, Parameter.next]
  · have different : Parameter.baseOf key ≠ base := Ne.symm same
    simp [same, different, Parameter.next]

/-- Binding a value in a pass is spelling the place where it is bound. -/
theorem bindValue_spells (options : CompileOptions) (key : Option String) (value : Value) :
    Spells options (bindValue options key value) (.bind key value) := by
  intro pass counted
  cases mode : options.literalBinds with
  | true =>
      have spelled : (Fragment.bind key value).spell options pass.params =
          (.ok (value.literal options.style.percentsDoubled), pass.params) := by
        simp [Fragment.spell, Fragment.bind, spellPieces, spellLiteral, mode]
      rw [spelled]
      refine ⟨pass, ?_, rfl, counted⟩
      rw [bindValue, if_pos mode]
      rfl
  | false =>
      have number : Parameter.next pass.params key value =
          ⟨Parameter.baseOf key, pass.counts (Parameter.baseOf key) + 1, value⟩ := by
        rw [counted, Parameter.next]
      have spelled : (Fragment.bind key value).spell options pass.params =
          (.ok (options.style.placeholder (Parameter.next pass.params key value).name),
            pass.params ++ [Parameter.next pass.params key value]) := by
        simp [Fragment.spell, Fragment.bind, spellPieces, spellBound, mode]
      rw [spelled]
      refine ⟨_, ?_, rfl, counted.next key value⟩
      rw [bindValue, mode, number]
      rfl

/-! ### Fragments written in a pass -/

/-- Write pieces one after the other. -/
def writePieces (options : CompileOptions) : List Piece → Writing String
  | [] => return ""
  | .text s :: rest => return s ++ (← writePieces options rest)
  | .bound key value :: rest => do
      let mark ← bindValue options key value
      return mark ++ (← writePieces options rest)

/-- Pieces are written as they are spelled: what the rest starts from is what
`spellPieces_append` hands on. -/
theorem writePieces_spells (options : CompileOptions) (pieces : List Piece) :
    Spells options (writePieces options pieces) ⟨pieces, none⟩ := by
  induction pieces with
  | nil =>
      intro pass counted
      have spelled : Fragment.empty.spell options pass.params = (.ok "", pass.params) := by
        simp only [Fragment.spell, Fragment.empty, spellPieces]
        split <;> rfl
      refine ⟨pass, ?_, congrArg Prod.snd spelled.symm, counted⟩
      exact congrArg (fun result => (result.1, pass)) spelled.symm
  | cons piece rest inductionHypothesis =>
      intro pass counted
      cases piece with
      | text s =>
          simp only [Fragment.spell, spellPieces_text]
          obtain ⟨after, wrote, params, counted'⟩ := inductionHypothesis pass counted
          refine ⟨after, ?_, params, counted'⟩
          rw [writePieces, run_bind_of_ok wrote]
          rfl
      | bound key value =>
          have threaded := spellPieces_append options pass.params [.bound key value] rest
          rw [List.singleton_append] at threaded
          simp only [Fragment.spell, threaded]
          obtain ⟨middle, bound, middleParams, middleCounted⟩ :=
            bindValue_spells options key value pass counted
          obtain ⟨after, wrote, params, counted'⟩ := inductionHypothesis middle middleCounted
          rw [middleParams] at wrote params
          refine ⟨after, ?_, params, counted'⟩
          rw [writePieces, run_bind_of_ok bound, run_bind_of_ok wrote]
          rfl

/-- Pieces in two parts are written one part after the other. -/
theorem writePieces_append (options : CompileOptions) (ps qs : List Piece) :
    writePieces options (ps ++ qs) = do
      let first ← writePieces options ps
      let second ← writePieces options qs
      return first ++ second := by
  induction ps with
  | nil => simp only [List.nil_append, writePieces, pure_bind, String.empty_append, bind_pure]
  | cons piece rest inductionHypothesis =>
      cases piece with
      | text s =>
          simp only [List.cons_append, writePieces, inductionHypothesis, bind_assoc, pure_bind,
            String.append_assoc]
      | bound key value =>
          simp only [List.cons_append, writePieces, inductionHypothesis, bind_assoc, pure_bind,
            String.append_assoc]

namespace Fragment

/-- Write a fragment: its pieces, and then its fault, if there is one. -/
def write (options : CompileOptions) (fragment : Fragment) : Writing String := do
  let sql ← writePieces options fragment.pieces
  match fragment.fault with
  | some error => throw error
  | none => return sql

/-- Writing a fragment in a pass is spelling it after the parameters of the
pass, with the same text or error and the same parameters. -/
theorem write_spells (options : CompileOptions) (fragment : Fragment) :
    Spells options (fragment.write options) fragment := by
  obtain ⟨pieces, fault⟩ := fragment
  intro pass counted
  obtain ⟨after, wrote, params, counted'⟩ := writePieces_spells options pieces pass counted
  cases fault with
  | none =>
      refine ⟨after, ?_, params, counted'⟩
      rw [write, run_bind_of_ok wrote]
      rfl
  | some error =>
      refine ⟨after, ?_, params, counted'⟩
      rw [write, run_bind_of_ok wrote]
      rfl

/-! ### How fragments are put together

Each way of putting fragments together is one step after the other in a pass, so
a writer that follows the same steps without fragments does the same. -/

section Steps

variable (options : CompileOptions)

theorem write_empty : empty.write options = return "" :=
  rfl

theorem write_text (s : String) : (text s).write options = return s := by
  simp only [write, text, writePieces, pure_bind, String.append_empty]

/-- A binding is written by binding its value in the pass. -/
theorem write_bind (key : Option String) (value : Value) :
    (bind key value).write options = bindValue options key value := by
  simp only [write, bind, writePieces, pure_bind, String.append_empty, bind_pure]

/-- A failure stops the pass with its error. -/
theorem write_fail (error : Error) : (fail error).write options = throw error :=
  rfl

/-- A fault ends the writing; what comes behind it is not reached. -/
theorem write_append (a b : Fragment) :
    (a ++ b).write options = do
      let first ← a.write options
      let second ← b.write options
      return first ++ second := by
  cases stopped : a.fault with
  | some error =>
      rw [append_of_fault stopped]
      simp only [write, stopped, bind_assoc]
      rfl
  | none =>
      rw [append_of_complete stopped]
      simp only [write, stopped, writePieces_append, bind_assoc, pure_bind]
      cases b.fault with
      | some error => rfl
      | none => simp only [pure_bind]

/-- A check is made before anything is written or bound. -/
theorem write_guarded (check : Except Error Unit) (fragment : Fragment) :
    (guarded check fragment).write options =
      (MonadExcept.ofExcept check >>= fun _ => fragment.write options) := by
  cases check with
  | ok _ => rfl
  | error error => rfl

/-- Joined fragments are written one after the other, and their texts are
joined. -/
theorem write_joinWith (separator : String) :
    ∀ fragments : List Fragment, (joinWith separator fragments).write options = do
      let items ← fragments.mapM (write options)
      return Text.joinWith separator items
  | [] => rfl
  | [item] => by
      simp only [joinWith, List.mapM_cons, List.mapM_nil, pure_bind, bind_assoc, Text.joinWith,
        bind_pure]
  | item :: next :: rest => by
      rw [joinWith, write_append, write_append, write_text, write_joinWith separator (next :: rest)]
      simp only [List.mapM_cons, pure_bind, bind_assoc, Text.joinWith]

theorem write_textIf (condition : Bool) (s : String) :
    (textIf condition s).write options = return if condition then s else "" := by
  cases condition with
  | true => exact write_text options s
  | false => rfl

/-- Something optional that is text binds nothing. -/
theorem write_ofOption_text {α : Type} (spelled : α → String) (value : Option α) :
    (ofOption (fun a => text (spelled a)) value).write options =
      return (value.map spelled).getD "" := by
  cases value with
  | none => rfl
  | some a => exact write_text options (spelled a)

end Steps

end Fragment

open Fragment

/-! ### Expressions written in one pass

Operands are written first and put in parentheses afterwards.  Every value is
bound when it is reached. -/

section Writers

variable (options : CompileOptions) (spelling : Spelling)

namespace Expr

/-- Put parentheses around a text if asked to. -/
def wrapped (condition : Bool) (sql : String) : String :=
  if condition then "(" ++ sql ++ ")" else sql

/-- Parentheses are put around the text that has been written. -/
theorem write_parenthesized (condition : Bool) (fragment : Fragment) :
    (parenthesized condition fragment).write options =
      return wrapped condition (← fragment.write options) := by
  cases condition with
  | true =>
      simp only [parenthesized, wrapped, if_true, write_append, write_text, pure_bind, bind_assoc]
  | false => exact (bind_pure _).symm

mutual

/-- Write an expression. -/
def write : Expr → Writing String
  | .column table name => return columnText spelling table name
  | .star => return "*"
  | .literal value => return value.literal spelling.percentsDoubled
  | .bind key value => bindValue options key value
  | .label _ name => return identifierText name
  | .function name args => do
      let items ← writeList args
      return name ++ "(" ++ joinWith ", " items ++ ")"
  | .binary left op right => do
      let leftSql ← write left
      let rightSql ← write right
      return wrapped (needsParens op false left) leftSql ++
        (" " ++ op.text spelling.percentsDoubled ++ " ") ++
        wrapped (needsParens op true right) rightSql
  | .not e => return "NOT " ++ wrapped e.isBinary (← write e)
  | .isNull e negated => return (← write e) ++ (" IS " ++ notWord negated ++ "NULL")
  | .inList e list negated =>
      if list.isEmpty then
        return if negated then "1" else "0"
      else do
        let sql ← write e
        let items ← writeList list
        return sql ++ (" " ++ notWord negated ++ "IN (") ++ joinWith ", " items ++ ")"
  | .distinctFrom left right negated => do
      let leftSql ← write left
      let rightSql ← write right
      return "hasAny([" ++ leftSql ++ "], [" ++ rightSql ++ if negated then "])" else "]) = 0"
  | .tuple items => do
      let written ← writeList items
      return (if items.length == 1 then "tuple(" else "(") ++ joinWith ", " written ++ ")"
  | .extract field e => do
      let sql ← write e
      match extractFunction? field with
      | some call => return call ++ "(" ++ sql ++ ")"
      | none => return sql
  | .cast e type => do
      MonadExcept.ofExcept (checkType type)
      return "CAST(" ++ (← write e) ++ (" AS " ++ type.render ++ ")")
  | .lambda param body => return param ++ " -> " ++ (← write body)
  | .raw text => return text

/-- Write every expression of a list. -/
def writeList : List Expr → Writing (List String)
  | [] => return []
  | e :: rest => do
      let first ← write e
      let others ← writeList rest
      return first :: others

end

mutual

/-- An expression is written in a pass as the pieces of its SQL are. -/
theorem write_eq : ∀ e : Expr, e.write options spelling = (e.sql spelling).write options
  | .column _ _ => (write_text options _).symm
  | .star => (write_text options _).symm
  | .literal _ => (write_text options _).symm
  | .bind key value => (write_bind options key value).symm
  | .label _ _ => (write_text options _).symm
  | .function name args => by
      rw [write, sql, writeList_eq args]
      simp only [write_append, write_text, write_joinWith, pure_bind, bind_assoc]
  | .binary left op right => by
      rw [write, sql, write_eq left, write_eq right]
      simp only [write_append, write_text, write_parenthesized, pure_bind, bind_assoc]
  | .not e => by
      rw [write, sql, write_eq e]
      simp only [write_append, write_text, write_parenthesized, pure_bind, bind_assoc]
  | .isNull e negated => by
      rw [write, sql, write_eq e]
      simp only [write_append, write_text, pure_bind]
  | .inList e list negated => by
      rw [write, sql]
      split
      · exact (write_text options _).symm
      · rw [write_eq e, writeList_eq list]
        simp only [write_append, write_text, write_joinWith, pure_bind, bind_assoc]
  | .distinctFrom left right negated => by
      rw [write, sql, write_eq left, write_eq right]
      simp only [write_append, write_text, pure_bind, bind_assoc]
  | .tuple items => by
      rw [write, sql, writeList_eq items]
      simp only [write_append, write_text, write_joinWith, pure_bind, bind_assoc]
  | .extract field e => by
      rw [write, sql, write_eq e]
      cases extractFunction? field with
      | some call => simp only [write_append, write_text, pure_bind, bind_assoc]
      | none => exact bind_pure _
  | .cast e type => by
      rw [write, sql, write_eq e]
      simp only [write_guarded, write_append, write_text, pure_bind, bind_assoc]
  | .lambda param body => by
      rw [write, sql, write_eq body]
      simp only [write_append, write_text, pure_bind]
  | .raw _ => (write_text options _).symm

/-- So is every expression of a list. -/
theorem writeList_eq : ∀ list : List Expr,
    writeList options spelling list = (sqlList spelling list).mapM (Fragment.write options)
  | [] => rfl
  | e :: rest => by
      rw [writeList, sqlList, List.mapM_cons, write_eq e, writeList_eq rest]

end

/-- Write an item of a select list. -/
def writeLabeled : Expr → Writing String
  | .label e name => return (← e.write options spelling) ++ (" AS " ++ identifierText name)
  | e => e.write options spelling

/-- An item of a select list is written like its fragment. -/
theorem writeLabeled_eq (e : Expr) :
    e.writeLabeled options spelling = (e.labeledSql spelling).write options := by
  cases e with
  | label e name =>
      rw [writeLabeled, labeledSql, write_eq]
      simp only [write_append, write_text, pure_bind]
  | _ => exact write_eq options spelling _

end Expr

/-! ### Queries and deletions written in one pass

A query grows clause by clause, and so do the parameters. -/

/-- Write items with commas between them. -/
def writeItems {α : Type} (write : α → Writing String) (items : List α) : Writing String :=
  return joinWith ", " (← items.mapM write)

/-- Write the value of an option behind some words; nothing if there is none. -/
def writeOption {α : Type} (words : String) (write : α → Writing String) :
    Option α → Writing String
  | none => return ""
  | some a => return words ++ (← write a)

/-- Write one thing behind another. -/
def writeBehind (first second : Writing String) : Writing String := do
  let before ← first
  let after ← second
  return before ++ after

/-- Items that are written like their fragments make lists written like the
joined fragments. -/
theorem writeItems_eq {α : Type} {write : α → Writing String} {sql : α → Fragment}
    (equal : ∀ a, write a = (sql a).write options) (items : List α) :
    writeItems write items = (Fragment.joinWith ", " (items.map sql)).write options := by
  have pointwise : write = fun a => (sql a).write options := funext equal
  rw [writeItems, write_joinWith, List.mapM_map, pointwise]
  rfl

/-- Something optional is written like its fragment, behind the same words. -/
theorem writeOption_eq {α : Type} {words : String} {write : α → Writing String}
    {sql : α → Fragment} (equal : ∀ a, write a = (sql a).write options) (value : Option α) :
    writeOption words write value =
      (Fragment.ofOption (fun a => .text words ++ sql a) value).write options := by
  cases value with
  | none => rfl
  | some a => simp only [writeOption, Fragment.ofOption, equal, write_append, write_text, pure_bind]

/-- Write the columns of an unfolding. -/
def ArrayJoin.write (clause : ArrayJoin) : Writing String :=
  if clause.columns.isEmpty then
    throw (.compile .emptyArrayJoin)
  else do
    let columns ← writeItems (Expr.writeLabeled options spelling) clause.columns
    return (if clause.left then "LEFT ARRAY JOIN " else "ARRAY JOIN ") ++ columns

theorem ArrayJoin.write_eq (clause : ArrayJoin) :
    clause.write options spelling = (clause.sql spelling).write options := by
  unfold ArrayJoin.write ArrayJoin.sql
  split
  · exact (write_fail options _).symm
  · rw [writeItems_eq options (Expr.writeLabeled_eq options spelling)]
    simp only [write_append, write_text, pure_bind, Expr.labeledListSql]

/-- Write a sample: the fraction is bound before the offset. -/
def Sample.write (clause : Sample) : Writing String := do
  let fraction ← bindValue options none clause.fraction
  let offset ← writeOption " OFFSET " (bindValue options none) clause.offset
  return "SAMPLE " ++ fraction ++ offset

theorem Sample.write_eq (clause : Sample) : clause.write options = clause.sql.write options := by
  rw [Sample.write, writeOption_eq options fun value => (write_bind options none value).symm]
  simp only [Sample.sql, write_append, write_text, write_bind, pure_bind, bind_assoc]

/-- Write a number of rows: the offset, if there is one, is bound first. -/
def writeLimit (offset : Option UInt64) (limit : UInt64) : Writing String :=
  match offset with
  | some start => do
      let first ← bindValue options none (.ofUInt64 start)
      let second ← bindValue options none (.ofUInt64 limit)
      return first ++ ", " ++ second
  | none => bindValue options none (.ofUInt64 limit)

/-- An offset is bound before the limit in both ways of writing. -/
theorem writeLimit_eq (offset : Option UInt64) (limit : UInt64) :
    writeLimit options offset limit = (limitSql offset limit).write options := by
  cases offset with
  | some start =>
      simp only [writeLimit, limitSql, Fragment.ofOption, write_append, write_text, write_bind,
        pure_bind, bind_assoc]
  | none =>
      simp only [writeLimit, limitSql, Fragment.ofOption, write_append, write_empty, write_bind,
        pure_bind, String.empty_append, bind_pure]

/-- Write a limit on the rows that agree on some expressions. -/
def LimitBy.write (clause : LimitBy) : Writing String :=
  if clause.keys.isEmpty then
    throw (.compile .emptyLimitBy)
  else do
    let rows ← writeLimit options clause.offset clause.limit
    let keys ← writeItems (Expr.write options spelling) clause.keys
    return "LIMIT " ++ rows ++ " BY " ++ keys

theorem LimitBy.write_eq (clause : LimitBy) :
    clause.write options spelling = (clause.sql spelling).write options := by
  unfold LimitBy.write LimitBy.sql
  split
  · exact (write_fail options _).symm
  · rw [writeItems_eq options (Expr.write_eq options spelling), writeLimit_eq]
    simp only [write_append, write_text, pure_bind, bind_assoc, Expr.listSql]

/-- Write an item of ORDER BY. -/
def OrderItem.write (item : OrderItem) : Writing String :=
  return (← item.expr.write options spelling) ++ (item.direction.map SortOrder.text).getD ""

theorem OrderItem.write_eq (item : OrderItem) :
    item.write options spelling = (item.sql spelling).write options := by
  rw [OrderItem.write, OrderItem.sql, Expr.write_eq]
  simp only [write_append, write_ofOption_text, pure_bind]

/-- The words of a join up to its condition. -/
def Join.head (join : Join) : String :=
  (join.spec.distribution.map fun d => d.text ++ " ").getD "" ++
    (join.spec.strictness.map fun s => s.text ++ " ").getD "" ++
    ((join.spec.kind.getD .inner).text ++ " JOIN " ++ identifierText join.table)

/-- Write a join. -/
def Join.write (join : Join) : Writing String :=
  match join.constraint with
  | .on predicate => return join.head ++ " ON " ++ (← predicate.write options spelling)
  | .using columns =>
      return join.head ++ (" USING (" ++ joinWith ", " (columns.map identifierText) ++ ")")

/-- A join is written like its fragment, for both forms of its condition. -/
theorem Join.write_eq (join : Join) :
    join.write options spelling = (join.sql spelling).write options := by
  rw [Join.write, Join.sql]
  simp only [write_append, write_ofOption_text, write_text, pure_bind]
  rcases join.constraint with predicate | columns
  · simp only [JoinConstraint.sql, Join.head, write_append, write_text, pure_bind, bind_assoc,
      Expr.write_eq, String.append_assoc]
  · simp only [JoinConstraint.sql, Join.head, write_text, pure_bind]

namespace Select

/-- Write the select list. -/
def writeColumns (query : Select) : Writing String := do
  let items ←
    if query.columns.isEmpty then pure "*"
    else writeItems (Expr.writeLabeled options spelling) query.columns
  return (if query.distinct then "SELECT DISTINCT " else "SELECT ") ++ items

/-- Write the table with its modifiers. -/
def writeSource (query : Select) : Writing String :=
  match query.source with
  | some table => do
      let sample ← writeOption " " (Sample.write options) query.sample
      return " FROM " ++ identifierText table ++ (if query.isFinal then " FINAL" else "") ++ sample
  | none =>
      if query.isFinal then throw (.compile .finalWithoutFrom)
      else if query.sample.isSome then throw (.compile .sampleWithoutFrom)
      else return ""

/-- Write the joins. -/
def writeJoins : List Join → Writing String
  | [] => return ""
  | join :: rest => do
      let first ← join.write options spelling
      let others ← writeJoins rest
      return " " ++ first ++ others

/-- Write the GROUP BY clause. -/
def writeGroups (query : Select) : Writing String :=
  if query.groupBy.isEmpty then return ""
  else do
    let keys ← writeItems (Expr.write options spelling) query.groupBy
    return " GROUP BY " ++ keys ++ if query.totals then " WITH TOTALS" else ""

/-- Write the ORDER BY clause. -/
def writeOrder (query : Select) : Writing String :=
  if query.orderBy.isEmpty then return ""
  else return " ORDER BY " ++ (← writeItems (OrderItem.write options spelling) query.orderBy)

/-- Write the SETTINGS clause. -/
def writeSettings (query : Select) : Writing String :=
  if query.settings.isEmpty then return ""
  else return " SETTINGS " ++ settingsText spelling.percentsDoubled query.settings

/-- Write a query. -/
def write (query : Select) : Writing String := do
  MonadExcept.ofExcept query.check
  query.writeColumns options spelling
    |> (writeBehind · (query.writeSource options))
    |> (writeBehind · (writeOption " " (ArrayJoin.write options spelling) query.arrayJoin))
    |> (writeBehind · (writeJoins options spelling query.joins))
    |> (writeBehind · (writeOption " WHERE " (Expr.write options spelling) query.filter))
    |> (writeBehind · (query.writeGroups options spelling))
    |> (writeBehind · (writeOption " HAVING " (Expr.write options spelling) query.having))
    |> (writeBehind · (query.writeOrder options spelling))
    |> (writeBehind · (writeOption " " (LimitBy.write options spelling) query.limitBy))
    |> (writeBehind · (writeOption " LIMIT " (writeLimit options query.offset) query.limit))
    |> (writeBehind · (query.writeSettings spelling))

/-- A select list is written like its fragment, also where it is empty. -/
theorem writeColumns_eq (query : Select) :
    query.writeColumns options spelling = (query.columnsSql spelling).write options := by
  simp only [writeColumns, columnsSql, write_append, write_text, pure_bind]
  split
  · rw [write_text, pure_bind]
  · rw [writeItems_eq options (Expr.writeLabeled_eq options spelling), Expr.labeledListSql]

/-- FINAL and a sample fail without a table in both ways of writing. -/
theorem writeSource_eq (query : Select) :
    query.writeSource options = query.sourceSql.write options := by
  rw [writeSource, sourceSql]
  cases query.source with
  | some table =>
      simp only [writeOption_eq options (Sample.write_eq options), write_append, write_text,
        write_textIf, pure_bind]
  | none =>
      -- Without a table, only the two faults and the empty text are left.
      cases query.isFinal <;> cases query.sample <;> rfl

/-- Joins are written in order, each behind a blank. -/
theorem writeJoins_eq (joins : List Join) :
    writeJoins options spelling joins = (joinsSql spelling joins).write options := by
  induction joins with
  | nil => rfl
  | cons join rest inductionHypothesis =>
      rw [writeJoins, joinsSql, Join.write_eq, inductionHypothesis]
      simp only [write_append, write_text, pure_bind, bind_assoc]

theorem writeGroups_eq (query : Select) :
    query.writeGroups options spelling = (query.groupSql spelling).write options := by
  unfold writeGroups groupSql
  split
  · exact (write_empty options).symm
  · rw [writeItems_eq options (Expr.write_eq options spelling)]
    simp only [write_append, write_text, write_textIf, pure_bind, bind_assoc, Expr.listSql]

theorem writeOrder_eq (query : Select) :
    query.writeOrder options spelling = (query.orderSql spelling).write options := by
  unfold writeOrder orderSql
  split
  · exact (write_empty options).symm
  · rw [writeItems_eq options (OrderItem.write_eq options spelling)]
    simp only [write_append, write_text, pure_bind]

/-- Settings are written out and leave the pass as it is. -/
theorem writeSettings_eq (query : Select) :
    query.writeSettings spelling =
      (settingsSql spelling.percentsDoubled query.settings).write options := by
  unfold writeSettings settingsSql
  split
  · exact (write_empty options).symm
  · exact (write_text options _).symm

/-- A query is written in a pass as the pieces of its SQL are, clause by
clause. -/
theorem write_eq (query : Select) :
    query.write options spelling = (query.sql spelling).write options := by
  rw [Select.write, Select.sql, write_guarded]
  simp only [writeColumns_eq, writeSource_eq, writeJoins_eq, writeGroups_eq, writeOrder_eq,
    writeSettings_eq options, writeOption_eq options (ArrayJoin.write_eq options spelling),
    writeOption_eq options (Expr.write_eq options spelling),
    writeOption_eq options (LimitBy.write_eq options spelling),
    writeOption_eq options (writeLimit_eq options query.offset), write_append, writeBehind]

end Select

/-- Write a deletion. -/
def Delete.write (capabilities : Capabilities) (deletion : Delete) : Writing String :=
  if !capabilities.supportsDelete then
    throw (.compile .deleteUnsupported)
  else
    match deletion.filter with
    | none => throw (.compile .deleteWithoutFilter)
    | some filter => do
        let condition ← filter.write options spelling
        return "ALTER TABLE " ++ identifierText deletion.table ++ " DELETE WHERE " ++ condition

/-- A deletion makes its checks in the same order as its fragment. -/
theorem Delete.write_eq (capabilities : Capabilities) (deletion : Delete) :
    deletion.write options spelling capabilities =
      (deletion.sql capabilities spelling).write options := by
  unfold Delete.write Delete.sql
  split
  · exact (write_fail options _).symm
  · cases deletion.filter with
    | none => exact (write_fail options _).symm
    | some filter => simp only [Expr.write_eq, write_append, write_text, pure_bind]

end Writers

/-! ### A whole compilation -/

/-- The result of a pass from its start. -/
def Writing.compiled (action : Writing String) : Except Error CompiledStatement :=
  match action Pass.start with
  | (.ok sql, pass) => .ok ⟨sql, pass.params, []⟩
  | (.error error, _) => .error error

/-- A pass from its start compiles what it spells. -/
theorem Spells.compiled_eq {options : CompileOptions} {action : Writing String}
    {fragment : Fragment} (spells : Spells options action fragment) :
    Writing.compiled action = fragment.compiled options := by
  obtain ⟨after, ran, params, -⟩ := spells Pass.start Pass.counted_start
  have started : Pass.start.params = [] := rfl
  rw [started] at ran params
  rw [Writing.compiled, ran, Fragment.compiled]
  cases spelled : fragment.spell options [] with
  | mk result bound =>
      rw [spelled] at params
      cases result with
      | ok sql => simp only [params]
      | error error => rfl

/-- Compiling an expression is writing it in one pass. -/
theorem Expr.compile_eq_write (options : CompileOptions) (e : Expr) :
    e.compile options =
      Writing.compiled (e.writeLabeled options ⟨options.style.percentsDoubled, false⟩) := by
  rw [Expr.writeLabeled_eq, (Fragment.write_spells options _).compiled_eq, Expr.compile]

/-- Compiling a query is writing it in one pass. -/
theorem Select.compile_eq_write (capabilities : Capabilities) (options : CompileOptions)
    (query : Select) :
    (Statement.select query).compile capabilities options =
      Writing.compiled (query.write options ⟨options.style.percentsDoubled, true⟩) := by
  rw [Select.write_eq, (Fragment.write_spells options _).compiled_eq, Statement.compile]

/-- Compiling a deletion is writing it in one pass. -/
theorem Delete.compile_eq_write (capabilities : Capabilities) (options : CompileOptions)
    (deletion : Delete) :
    (Statement.delete deletion).compile capabilities options =
      Writing.compiled
        (deletion.write options ⟨options.style.percentsDoubled, false⟩ capabilities) := by
  rw [Delete.write_eq, (Fragment.write_spells options _).compiled_eq, Statement.compile]

end ColumnarSql
