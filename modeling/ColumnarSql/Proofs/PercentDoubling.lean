/-
Module: ColumnarSql.Proofs.PercentDoubling
Purpose: Texts that are formatted afterwards.  A statement formats well exactly
  if none of the texts that it writes as they are has a percent sign.
Main exports:
  PyformatDoubles, Fragment.pyformatDoubles_compiled, pyformatDoubles_of_text,
  Statement.compile_pyformat_iff
-/
import ColumnarSql.Proofs.ParameterNames
import ColumnarSql.Proofs.VerbatimTexts

namespace ColumnarSql

open Text

/-! ### Percent signs in spelled texts -/

/-- The percent signs of a spelled text are those of its texts and of its
marks. -/
theorem percents_interleave {texts marks : List String}
    (lengths : texts.length = marks.length + 1) :
    percents (interleave texts marks) = percentsIn texts + percentsIn marks := by
  induction marks generalizing texts with
  | nil =>
      obtain ⟨s, rfl⟩ := List.length_eq_one_iff.mp lengths
      simp [interleave]
  | cons mark marks inductionHypothesis =>
      rcases texts with _ | ⟨s, texts⟩
      · cases lengths
      have rest := inductionHypothesis (Nat.succ.inj lengths)
      simp only [interleave, percents_append, percentsIn_cons, rest]
      omega

/-- The texts between bindings have the percent signs of the pieces. -/
theorem percentsIn_segments (pieces : List Piece) :
    percentsIn (segments pieces) = textPercents pieces := by
  induction pieces with
  | nil => rfl
  | cons piece rest inductionHypothesis =>
      cases piece with
      | text s =>
          cases found : segments rest with
          | nil => exact absurd found (segments_ne_nil rest)
          | cons first more =>
              rw [found] at inductionHypothesis
              simp only [segments, found, prependText, textPercents, percentsIn_cons,
                percents_append, ← inductionHypothesis, Nat.add_assoc]
      | bound key value =>
          rw [segments, percentsIn_cons, inductionHypothesis, textPercents]
          exact Nat.zero_add _

theorem percentsIn_map_doubledText (texts : List String) :
    percentsIn (texts.map doubledText) = 2 * percentsIn texts := by
  induction texts with
  | nil => rfl
  | cons s rest inductionHypothesis =>
      rw [List.map_cons, percentsIn_cons, percentsIn_cons, percents_doubledText,
        inductionHypothesis, Nat.mul_add]

/-- Doubling the pieces doubles the texts between the bindings. -/
theorem segments_map_doubled (pieces : List Piece) :
    segments (pieces.map Piece.doubled) = (segments pieces).map doubledText := by
  induction pieces with
  | nil => rfl
  | cons piece rest inductionHypothesis =>
      cases piece with
      | text s =>
          rw [List.map_cons, Piece.doubled, segments, segments, inductionHypothesis]
          cases found : segments rest with
          | nil => rfl
          | cons first more => simp [prependText, doubledText_append]
      | bound key value =>
          rw [List.map_cons, Piece.doubled, segments, segments, inductionHypothesis]
          rfl

/-- Where values are written out, their literals count as well. -/
theorem percents_spellLiteral (style : ParameterStyle) (pieces : List Piece) :
    percents (spellLiteral style pieces) = textPercents pieces +
      percentsIn ((bindings pieces).map fun b => b.2.literal style.percentsDoubled) := by
  induction pieces with
  | nil => rfl
  | cons piece rest inductionHypothesis =>
      cases piece with
      | text s =>
          simp only [spellLiteral, textPercents, bindings, percents_append, inductionHypothesis,
            Nat.add_assoc]
      | bound key value =>
          simp only [spellLiteral, textPercents, bindings, percents_append, inductionHypothesis,
            List.map_cons, percentsIn_cons]
          omega

/-- Doubled literals have twice as many percent signs. -/
theorem percentsIn_literals (values : List (Option String × Value)) :
    percentsIn (values.map fun b => b.2.literal true) =
      2 * percentsIn (values.map fun b => b.2.literal false) := by
  induction values with
  | nil => rfl
  | cons value rest inductionHypothesis =>
      have literal := value.2.literal_doubles.count
      rw [percentsIn_nil, Nat.add_zero] at literal
      rw [List.map_cons, List.map_cons, percentsIn_cons, percentsIn_cons, inductionHypothesis,
        literal, Nat.mul_add]

/-- Spelling doubled pieces with doubled literals doubles the whole text. -/
theorem spellLiteral_map_doubled (pieces : List Piece) :
    spellLiteral .pyformat (pieces.map Piece.doubled) =
      doubledText (spellLiteral .named pieces) := by
  induction pieces with
  | nil => rfl
  | cons piece rest inductionHypothesis =>
      cases piece with
      | text s =>
          rw [List.map_cons, Piece.doubled, spellLiteral, spellLiteral, inductionHypothesis,
            doubledText_append]
      | bound key value =>
          have literal := value.literal_doubles.doubles rfl
          rw [List.map_cons, Piece.doubled, spellLiteral, spellLiteral, inductionHypothesis,
            doubledText_append]
          exact congrArg (· ++ _) literal

/-- Where values are written out, they double their percent signs too. -/
theorem Fragment.Doubles.spellLiteral {names : List String} {a b : Fragment}
    (doubles : Doubles names a b) (alike : Alike a b) (complete : a.fault = none) :
    DoublesText names (ColumnarSql.spellLiteral .named a.pieces)
      (ColumnarSql.spellLiteral .pyformat b.pieces) := by
  refine ⟨?_, ?_⟩
  · have texts := doubles.count complete
    have literals := percentsIn_literals (bindings a.pieces)
    rw [percents_spellLiteral, percents_spellLiteral, ← bindings_eq_of_alike alike.pieces]
    simp only [ParameterStyle.percentsDoubled]
    omega
  · intro free
    rw [doubles.doubles complete free, spellLiteral_map_doubled]

/-! ### Formatting -/

/-- The results of compiling one thing with bound values, of which `verbatim`
are the texts written as they are.  Either every style fails with the same
error.  Or there are texts that named and anonymous placeholders share, and the
text to be formatted is those texts with all percent signs doubled, around its
placeholders, exactly if no verbatim text has a percent sign. -/
def PyformatDoubles (compile : CompileOptions → Except Error CompiledStatement)
    (verbatim : List String) : Prop :=
  (∃ error, ∀ style, compile ⟨false, style⟩ = .error error) ∨
    ∃ (texts : List String) (params : List Parameter) (rows : List (List Value)),
      texts.length = params.length + 1 ∧
      compile ⟨false, .named⟩ = .ok ⟨interleave texts (namedMarks params), params, rows⟩ ∧
      compile ⟨false, .qmark⟩ = .ok ⟨interleave texts (params.map fun _ => "?"), params, rows⟩ ∧
      (compile ⟨false, .pyformat⟩ =
          .ok ⟨interleave (texts.map doubledText) (params.map fun p => "%(" ++ p.name ++ ")s"),
            params, rows⟩ ↔
        ∀ s ∈ verbatim, '%' ∉ s.toList)

/-- Bound values leave the texts around them to be doubled. -/
theorem Fragment.pyformatDoubles_compiled (write : Bool → Fragment) {names : List String}
    (alike : ∀ doubled, Alike (write false) (write doubled))
    (doubles : Doubles names (write false) (write true)) :
    PyformatDoubles (fun options => (write options.style.percentsDoubled).compiled options)
      names := by
  cases stopped : (write false).fault with
  | some error =>
      refine .inl ⟨error, fun style => compiled_of_fault ?_ _⟩
      rw [← (alike style.percentsDoubled).fault, stopped]
  | none =>
      have complete : (write true).fault = none := doubles.fault ▸ stopped
      have sameBindings := bindings_eq_of_alike (alike true).pieces
      let params := parametersFrom [] (bindings (write false).pieces)
      have lengths (pieces : List Piece)
          (same : bindings pieces = bindings (write false).pieces) :
          (segments pieces).length = params.length + 1 := by
        rw [length_segments, length_parametersFrom, same]
      refine .inr ⟨segments (write false).pieces, params, [], lengths _ rfl,
        compiled_bound stopped .named, compiled_bound stopped .qmark, ?_⟩
      have formatted : (write true).compiled ⟨false, .pyformat⟩ =
          .ok ⟨interleave (segments (write true).pieces)
            (params.map fun p => "%(" ++ p.name ++ ")s"), params, []⟩ := by
        have spelled := compiled_bound complete .pyformat
        rw [← sameBindings] at spelled
        exact spelled
      change (write true).compiled ⟨false, .pyformat⟩ = _ ↔ _
      rw [← percentsIn_eq_zero_iff, formatted]
      constructor
      · intro same
        rw [Except.ok.injEq, CompiledStatement.mk.injEq] at same
        have counted := congrArg percents same.1
        rw [percents_interleave (by simpa using lengths _ sameBindings.symm),
          percents_interleave (by simpa using lengths _ rfl), percentsIn_segments,
          percentsIn_map_doubledText, percentsIn_segments] at counted
        have texts := doubles.count stopped
        omega
      · intro free
        rw [doubles.doubles stopped free, segments_map_doubled]

/-- A text without placeholders is doubled as a whole. -/
theorem pyformatDoubles_of_text {compile : CompileOptions → Except Error CompiledStatement}
    {names : List String} {s t : String} {rows : List (List Value)}
    (doubles : DoublesText names s t)
    (named : compile ⟨false, .named⟩ = .ok ⟨s, [], rows⟩)
    (qmark : compile ⟨false, .qmark⟩ = .ok ⟨s, [], rows⟩)
    (pyformat : compile ⟨false, .pyformat⟩ = .ok ⟨t, [], rows⟩) :
    PyformatDoubles compile names := by
  refine .inr ⟨[s], [], rows, rfl, named, qmark, ?_⟩
  rw [← percentsIn_eq_zero_iff, pyformat]
  constructor
  · intro same
    rw [Except.ok.injEq, CompiledStatement.mk.injEq] at same
    have counted := congrArg percents same.1
    rw [show interleave ([s].map doubledText) _ = doubledText s from rfl,
      percents_doubledText] at counted
    have texts := doubles.count
    omega
  · intro free
    rw [doubles.doubles free]
    rfl

theorem Insert.names_of_collect {table : Table} {names : List String} {columns : List Column}
    (found : collect (filledColumn table) names = .ok columns) :
    columns.map Column.name = names := by
  have named {name : String} {column : Column} (filled : filledColumn table name = .ok column) :
      column.name = name := by
    simpa using List.find?_some (filledColumn_eq_ok_iff.mp filled)
  have same := collect_eq_ok_iff.mp found
  clear found
  induction names generalizing columns with
  | nil => simpa using same.symm
  | cons name rest inductionHypothesis =>
      cases columns with
      | nil => simp at same
      | cons column columns =>
          rw [List.map_cons, List.map_cons, List.cons.injEq] at same
          rw [List.map_cons, named same.1, inductionHypothesis same.2]

/-- The columns that an insertion fills have the names it lists, or are all
columns of the table. -/
theorem Insert.names_filledColumns {insertion : Insert} {columns : List Column}
    (filled : insertion.filledColumns = .ok columns) :
    columns.map Column.name =
      if insertion.columns.isEmpty then insertion.table.columns.map Column.name
      else insertion.columns := by
  unfold filledColumns at filled
  split at filled
  · rename_i noNames
    cases filled
    rw [if_pos noNames]
  · rename_i names
    rw [if_neg names, names_of_collect filled]

/-- The names of the table and its columns are the only texts of an insertion
that are not doubled. -/
theorem Insert.headText_doubles (table : String) (columns : List Column) :
    DoublesText (table :: columns.map Column.name) (headText table columns)
      (headText table columns) := by
  have names := identifiers_doubles (columns.map Column.name)
  rw [List.map_map] at names
  exact ((((DoublesText.fixed rfl).append (.identifier table)).append (.fixed rfl)).append
    names).after (.fixed rfl)

/-- An insertion formats well exactly if the names in its head have no percent
sign. -/
theorem Insert.pyformatDoubles_compile (insertion : Insert) :
    PyformatDoubles (fun options => insertion.compile options)
      (Statement.insert insertion).verbatim := by
  cases result : insertion.compile ⟨false, .named⟩ with
  | error error => exact .inl ⟨error, fun style => (insertion.compile_style style).trans result⟩
  | ok compiled =>
      obtain ⟨columns, rows, filled, rfl⟩ := Insert.compile_eq_ok result
      have names := headText_doubles insertion.table.name columns
      rw [names_filledColumns filled] at names
      exact pyformatDoubles_of_text names result ((insertion.compile_style _).trans result)
        ((insertion.compile_style _).trans result)

theorem spellLiteral_qmark (pieces : List Piece) :
    spellLiteral .qmark pieces = spellLiteral .named pieces := by
  induction pieces with
  | nil => rfl
  | cons piece rest inductionHypothesis =>
      cases piece with
      | text s => rw [spellLiteral, spellLiteral, inductionHypothesis]
      | bound key value =>
          rw [spellLiteral, spellLiteral, inductionHypothesis]
          rfl

/-- The creation of a table formats well exactly if no text in it that is
written as it is has a percent sign. -/
theorem CreateTable.pyformatDoubles_compile (capabilities : Capabilities)
    (creation : CreateTable) :
    PyformatDoubles
      (fun options => (Statement.createTable creation).compile capabilities options)
      (Statement.createTable creation).verbatim := by
  have alike (doubled : Bool) := creation.sql_alike ⟨false, false⟩ ⟨doubled, false⟩
  have doubles := creation.sql_doubles
  cases stopped : (creation.sql ⟨false, false⟩).fault with
  | some error =>
      refine .inl ⟨error, fun style => Fragment.compiled_of_fault ?_ _⟩
      rw [← (alike style.percentsDoubled).fault, stopped]
  | none =>
      have complete : (creation.sql ⟨true, false⟩).fault = none := doubles.fault ▸ stopped
      have spelled {fragment : Fragment} (complete : fragment.fault = none)
          (style : ParameterStyle) : fragment.compiled ⟨true, style⟩ =
            .ok ⟨spellLiteral style fragment.pieces, [], []⟩ := by
        simp [Fragment.compiled, Fragment.spell, complete, spellPieces]
      exact pyformatDoubles_of_text (doubles.spellLiteral (alike true) stopped)
        (spelled stopped .named) (spellLiteral_qmark _ ▸ spelled stopped .qmark)
        (spelled complete .pyformat)

/-- The removal of a table writes its name as it is. -/
theorem DropTable.text_doubles (removal : DropTable) :
    DoublesText [removal.table] removal.text removal.text := by
  refine ((DoublesText.fixed rfl).append (.fixed ?_)).append (.identifier removal.table)
  split <;> rfl

/-- A statement or an expression that compiles with bound values formats well
exactly if no text that it writes as it is has a percent sign. -/
theorem Statement.compile_pyformat_iff (capabilities : Capabilities) (statement : Statement)
    (e : Expr) :
    PyformatDoubles (fun options => statement.compile capabilities options) statement.verbatim ∧
      PyformatDoubles (fun options => e.compile options) (e.labeledVerbatim false) := by
  constructor
  · cases statement with
    | select query =>
        exact Fragment.pyformatDoubles_compiled (fun doubled => query.sql ⟨doubled, true⟩)
          (fun _ => query.sql_alike _ _) query.sql_doubles
    | delete deletion =>
        exact Fragment.pyformatDoubles_compiled
          (fun doubled => deletion.sql capabilities ⟨doubled, false⟩)
          (fun _ => deletion.sql_alike _ _ capabilities) (deletion.sql_doubles capabilities)
    | insert insertion => exact insertion.pyformatDoubles_compile
    | createTable creation => exact creation.pyformatDoubles_compile capabilities
    | dropTable removal => exact pyformatDoubles_of_text removal.text_doubles rfl rfl rfl
  · exact Fragment.pyformatDoubles_compiled (fun doubled => e.labeledSql ⟨doubled, false⟩)
      (fun _ => e.labeledSql_alike _ _) (e.labeledSql_doubles false)

/-- A percent sign in the name of a column stays single, so the text around
the placeholder is not the doubled one. -/
theorem Statement.compile_pyformat_percent_in_name :
    let query : Statement := .select
      { columns := [.column none "a%b"], source := some "t",
        filter := some (.binary (.column none "x") .eq (.bind (some "x") (.int 1))) }
    let texts := ["SELECT \"a%b\" FROM t WHERE x = ", ""]
    let params : List Parameter := [⟨"x", 1, .int 1⟩]
    query.compile {} ⟨false, .named⟩ = .ok ⟨interleave texts [":x_1"], params, []⟩ ∧
      query.compile {} ⟨false, .pyformat⟩ = .ok ⟨interleave texts ["%(x_1)s"], params, []⟩ ∧
      interleave texts ["%(x_1)s"] ≠ interleave (texts.map doubledText) ["%(x_1)s"] := by
  refine ⟨rfl, rfl, ?_⟩
  decide

end ColumnarSql
