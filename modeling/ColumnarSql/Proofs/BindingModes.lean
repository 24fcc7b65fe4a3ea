/-
Module: ColumnarSql.Proofs.BindingModes
Purpose: Agreement of the two ways to pass values.  A statement is the same
  texts in the same order whether its values are bound or written out, and the
  parameters stand in the order of their placeholders.
Main exports:
  interleave, segments, parametersFrom, spellBound_eq, spellLiteral_eq,
  spellPieces_append, Piece.Alike, Expr.sql_alike, Statement.compile_modes_agree
-/
import ColumnarSql.Proofs.FragmentLaws
import ColumnarSql.Statement.Compile

namespace ColumnarSql

open Text

/-! ### Texts with marks between them -/

/-- Texts with a mark between neighbours: there is one mark less than there are
texts. -/
def interleave : List String → List String → String
  | [], _ => ""
  | s :: _, [] => s
  | s :: rest, mark :: marks => s ++ mark ++ interleave rest marks

/-- Write a text in front of the first of some texts. -/
def prependText (s : String) : List String → List String
  | [] => [s]
  | t :: rest => (s ++ t) :: rest

/-- The texts before, between and after the bound values. -/
def segments : List Piece → List String
  | [] => [""]
  | .text s :: rest => prependText s (segments rest)
  | .bound _ _ :: rest => "" :: segments rest

/-- The bound values in order, each with its key. -/
def bindings : List Piece → List (Option String × Value)
  | [] => []
  | .text _ :: rest => bindings rest
  | .bound key value :: rest => (key, value) :: bindings rest

/-- The parameters that values get which are bound after the `earlier` ones. -/
def parametersFrom (earlier : List Parameter) : List (Option String × Value) → List Parameter
  | [] => []
  | (key, value) :: rest =>
      let param := Parameter.next earlier key value
      param :: parametersFrom (earlier ++ [param]) rest

/-- There is always at least one text, be it empty. -/
theorem segments_ne_nil (pieces : List Piece) : segments pieces ≠ [] := by
  induction pieces with
  | nil => simp [segments]
  | cons piece rest inductionHypothesis =>
      cases piece with
      | bound key value => simp [segments]
      | text s => cases found : segments rest <;> simp [segments, found, prependText]

/-- Writing in front of the first text makes no further text. -/
theorem length_prependText {texts : List String} (nonempty : texts ≠ []) (s : String) :
    (prependText s texts).length = texts.length := by
  cases texts with
  | nil => exact absurd rfl nonempty
  | cons first rest => rfl

/-- There is one text more than there are bound values. -/
theorem length_segments (pieces : List Piece) :
    (segments pieces).length = (bindings pieces).length + 1 := by
  induction pieces with
  | nil => rfl
  | cons piece rest inductionHypothesis =>
      cases piece with
      | text s =>
          rw [segments, length_prependText (segments_ne_nil rest), bindings, inductionHypothesis]
      | bound key value => simp [segments, bindings, inductionHypothesis]

/-- Every bound value gets one parameter. -/
theorem length_parametersFrom (earlier : List Parameter)
    (values : List (Option String × Value)) :
    (parametersFrom earlier values).length = values.length := by
  induction values generalizing earlier with
  | nil => rfl
  | cons value rest inductionHypothesis => simp [parametersFrom, inductionHypothesis]

/-- A text in front of the first one comes out in front of everything. -/
theorem interleave_prependText {texts : List String} (nonempty : texts ≠ []) (s : String)
    (marks : List String) : interleave (prependText s texts) marks = s ++ interleave texts marks := by
  cases texts with
  | nil => exact absurd rfl nonempty
  | cons first rest => cases marks <;> simp [prependText, interleave, String.append_assoc]

/-! ### Spelling is interleaving -/

/-- With placeholders, the texts stand around the placeholders of the new
parameters in order. -/
theorem spellBound_eq (style : ParameterStyle) (earlier : List Parameter) (pieces : List Piece) :
    spellBound style earlier pieces =
      (interleave (segments pieces)
          ((parametersFrom earlier (bindings pieces)).map fun p => style.placeholder p.name),
        earlier ++ parametersFrom earlier (bindings pieces)) := by
  induction pieces generalizing earlier with
  | nil => simp [spellBound, segments, bindings, parametersFrom, interleave]
  | cons piece rest inductionHypothesis =>
      cases piece with
      | text s =>
          rw [spellBound, inductionHypothesis, segments, bindings,
            interleave_prependText (segments_ne_nil rest)]
      | bound key value =>
          rw [spellBound, inductionHypothesis]
          simp [segments, bindings, parametersFrom, interleave]

/-- With literals, the same texts stand around the literals of the same
values. -/
theorem spellLiteral_eq (style : ParameterStyle) (earlier : List Parameter)
    (pieces : List Piece) :
    spellLiteral style pieces =
      interleave (segments pieces)
        ((parametersFrom earlier (bindings pieces)).map fun p =>
          p.value.literal style.percentsDoubled) := by
  induction pieces generalizing earlier with
  | nil => simp [spellLiteral, segments, bindings, parametersFrom, interleave]
  | cons piece rest inductionHypothesis =>
      cases piece with
      | text s =>
          rw [spellLiteral, inductionHypothesis earlier, segments, bindings,
            interleave_prependText (segments_ne_nil rest)]
      | bound key value =>
          rw [spellLiteral, inductionHypothesis (earlier ++ [Parameter.next earlier key value])]
          simp [segments, bindings, parametersFrom, interleave, Parameter.next]

/-! ### Spelling in parts

What is spelled later starts from the parameters that were bound before, and
adds its own behind them. -/

/-- With placeholders, the second part is spelled after the parameters of the
first. -/
theorem spellBound_append (style : ParameterStyle) (earlier : List Parameter)
    (ps qs : List Piece) :
    spellBound style earlier (ps ++ qs) =
      let first := spellBound style earlier ps
      let second := spellBound style first.2 qs
      (first.1 ++ second.1, second.2) := by
  induction ps generalizing earlier with
  | nil => simp [spellBound]
  | cons piece rest inductionHypothesis =>
      cases piece with
      | text s => simp [spellBound, inductionHypothesis, String.append_assoc]
      | bound key value => simp [spellBound, inductionHypothesis, String.append_assoc]

/-- With literals, there is nothing to hand on. -/
theorem spellLiteral_append (style : ParameterStyle) (ps qs : List Piece) :
    spellLiteral style (ps ++ qs) = spellLiteral style ps ++ spellLiteral style qs := by
  induction ps with
  | nil => simp [spellLiteral]
  | cons piece rest inductionHypothesis =>
      cases piece with
      | text s => simp [spellLiteral, inductionHypothesis, String.append_assoc]
      | bound key value => simp [spellLiteral, inductionHypothesis, String.append_assoc]

/-- A text is spelled as it is and leaves the parameters to what follows. -/
theorem spellPieces_text (options : CompileOptions) (earlier : List Parameter) (s : String)
    (rest : List Piece) :
    spellPieces options earlier (.text s :: rest) =
      (s ++ (spellPieces options earlier rest).1, (spellPieces options earlier rest).2) := by
  unfold spellPieces
  split
  · rfl
  · rfl

/-- In either mode, the parameters run through the parts in order. -/
theorem spellPieces_append (options : CompileOptions) (earlier : List Parameter)
    (ps qs : List Piece) :
    spellPieces options earlier (ps ++ qs) =
      let first := spellPieces options earlier ps
      let second := spellPieces options first.2 qs
      (first.1 ++ second.1, second.2) := by
  unfold spellPieces
  split
  · rw [spellLiteral_append]
  · exact spellBound_append options.style earlier ps qs

/-! ### The same bindings under every spelling

Spellings differ in how percent signs and columns are written.  Neither moves,
adds or drops a bound value, and neither decides whether writing fails. -/

/-- Two pieces that bind the same value, or are both texts. -/
inductive Piece.Alike : Piece → Piece → Prop
  | text (s t : String) : Alike (.text s) (.text t)
  | bound (key : Option String) (value : Value) : Alike (.bound key value) (.bound key value)

/-- Two fragments that bind the same values at the same places. -/
abbrev Fragment.Alike : Fragment → Fragment → Prop :=
  Fragment.Related Piece.Alike

/-- Alike pieces bind the same values in the same order. -/
theorem bindings_eq_of_alike {ps qs : List Piece} (alike : List.Forall₂ Piece.Alike ps qs) :
    bindings ps = bindings qs := by
  induction alike with
  | nil => rfl
  | cons first rest inductionHypothesis =>
      cases first with
      | text s t => exact inductionHypothesis
      | bound key value => rw [bindings, bindings, inductionHypothesis]

namespace Fragment.Alike

/-- Two fixed texts are alike, whatever they say: only bindings count. -/
theorem text (s t : String) : Alike (.text s) (.text t) :=
  .single (.text s t)

/-- A binding is alike to itself under every spelling. -/
theorem bind (key : Option String) (value : Value) : Alike (.bind key value) (.bind key value) :=
  .single (.bound key value)

theorem joinWith {separator : String} {as bs : List Fragment} (alike : List.Forall₂ Alike as bs) :
    Alike (joinWith separator as) (joinWith separator bs) :=
  Related.joinWith (.text separator separator) alike

/-- Two writers that are alike at every item write alike lists. -/
theorem joinMap {α : Type} {separator : String} {write write' : α → Fragment}
    (alike : ∀ a, Alike (write a) (write' a)) (list : List α) :
    Alike (Fragment.joinWith separator (list.map write))
      (Fragment.joinWith separator (list.map write')) :=
  joinWith (Related.map alike list)

theorem textIf (condition : Bool) (s t : String) : Alike (textIf condition s) (textIf condition t) := by
  cases condition with
  | true => exact text s t
  | false => exact .empty

end Fragment.Alike

open Fragment (Alike)

/-- Parentheses are texts, so putting them keeps fragments alike. -/
theorem Expr.parenthesized_alike (condition : Bool) {a b : Fragment} (alike : Alike a b) :
    Alike (parenthesized condition a) (parenthesized condition b) := by
  cases condition with
  | true => exact (Alike.text _ _ |>.append alike).append (Alike.text _ _)
  | false => exact alike

section Spellings

variable (spelling spelling' : Spelling)

mutual

/-- An expression binds the same values under every spelling. -/
theorem Expr.sql_alike : ∀ e : Expr, Alike (e.sql spelling) (e.sql spelling')
  | .column _ _ => Alike.text _ _
  | .star => Alike.text _ _
  | .literal _ => Alike.text _ _
  | .bind key value => Alike.bind key value
  | .label _ _ => Alike.text _ _
  | .function _ args =>
      (Alike.text _ _ |>.append (Alike.joinWith (Expr.sqlList_alike args))).append (Alike.text _ _)
  | .binary left op right =>
      (Expr.parenthesized_alike _ (Expr.sql_alike left) |>.append (Alike.text _ _)).append
        (Expr.parenthesized_alike _ (Expr.sql_alike right))
  | .not e => (Alike.text _ _).append (Expr.parenthesized_alike _ (Expr.sql_alike e))
  | .isNull e _ => (Expr.sql_alike e).append (Alike.text _ _)
  | .inList e list negated => by
      simp only [Expr.sql]
      split
      · exact Alike.text _ _
      · exact ((Expr.sql_alike e).append (Alike.text _ _) |>.append
          (Alike.joinWith (Expr.sqlList_alike list))).append (Alike.text _ _)
  | .distinctFrom left right _ =>
      ((Alike.text _ _ |>.append (Expr.sql_alike left)).append (Alike.text _ _) |>.append
        (Expr.sql_alike right)).append (Alike.text _ _)
  | .tuple items =>
      (Alike.text _ _ |>.append (Alike.joinWith (Expr.sqlList_alike items))).append (Alike.text _ _)
  | .extract field e => by
      simp only [Expr.sql]
      cases extractFunction? field with
      | some call => exact (Alike.text _ _ |>.append (Expr.sql_alike e)).append (Alike.text _ _)
      | none => exact Expr.sql_alike e
  | .cast e type =>
      .guarded _ ((Alike.text _ _ |>.append (Expr.sql_alike e)).append (Alike.text _ _))
  | .lambda _ body => (Alike.text _ _).append (Expr.sql_alike body)
  | .raw _ => Alike.text _ _

/-- So does every expression of a list. -/
theorem Expr.sqlList_alike :
    ∀ list : List Expr,
      List.Forall₂ Alike (Expr.sqlList spelling list) (Expr.sqlList spelling' list)
  | [] => .nil
  | e :: rest => .cons (Expr.sql_alike e) (Expr.sqlList_alike rest)

end

/-- Lists of expressions are alike under any two spellings. -/
theorem Expr.listSql_alike (list : List Expr) :
    Alike (Expr.listSql spelling list) (Expr.listSql spelling' list) :=
  Alike.joinMap (Expr.sql_alike spelling spelling') list

theorem Expr.labeledSql_alike (e : Expr) :
    Alike (e.labeledSql spelling) (e.labeledSql spelling') := by
  cases e with
  | label e name => exact (Expr.sql_alike spelling spelling' e).append (Alike.text _ _)
  | _ => exact Expr.sql_alike spelling spelling' _

theorem Expr.labeledListSql_alike (list : List Expr) :
    Alike (Expr.labeledListSql spelling list) (Expr.labeledListSql spelling' list) :=
  Alike.joinMap (Expr.labeledSql_alike spelling spelling') list

theorem ArrayJoin.sql_alike (clause : ArrayJoin) :
    Alike (clause.sql spelling) (clause.sql spelling') := by
  unfold ArrayJoin.sql
  split
  · exact .fail _
  · exact (Alike.text _ _).append (Expr.labeledListSql_alike spelling spelling' clause.columns)

/-- A sample does not depend on the spelling at all. -/
theorem Sample.sql_alike (clause : Sample) : Alike clause.sql clause.sql :=
  (Alike.text _ _ |>.append (Alike.bind _ _)).append
    (.ofOption (fun offset => (Alike.text _ _).append (Alike.bind none offset)) clause.offset)

theorem limitSql_alike (offset : Option UInt64) (limit : UInt64) :
    Alike (limitSql offset limit) (limitSql offset limit) :=
  .append (.ofOption (fun n => (Alike.bind none (.ofUInt64 n)).append (Alike.text _ _)) offset)
    (Alike.bind _ _)

theorem LimitBy.sql_alike (clause : LimitBy) :
    Alike (clause.sql spelling) (clause.sql spelling') := by
  unfold LimitBy.sql
  split
  · exact .fail _
  · exact ((Alike.text _ _).append (limitSql_alike clause.offset clause.limit) |>.append
      (Alike.text _ _)).append (Expr.listSql_alike spelling spelling' clause.keys)

theorem OrderItem.sql_alike (item : OrderItem) :
    Alike (item.sql spelling) (item.sql spelling') :=
  (Expr.sql_alike spelling spelling' item.expr).append
    (.ofOption (fun _ => Alike.text _ _) item.direction)

/-- Settings are texts, whether or not their percent signs are doubled. -/
theorem settingsSql_alike (doubled doubled' : Bool) (settings : List Setting) :
    Alike (settingsSql doubled settings) (settingsSql doubled' settings) := by
  unfold settingsSql
  split
  · exact .empty
  · exact Alike.text _ _

/-- A join is alike under any two spellings, for both forms of its condition. -/
theorem Join.sql_alike (join : Join) : Alike (join.sql spelling) (join.sql spelling') := by
  have constraint : Alike (join.constraint.sql spelling) (join.constraint.sql spelling') := by
    unfold JoinConstraint.sql
    split
    · exact (Alike.text _ _).append (Expr.sql_alike spelling spelling' _)
    · exact Alike.text _ _
  refine .append (.append (.append ?_ ?_) (Alike.text _ _)) constraint
  · exact .ofOption (fun _ => Alike.text _ _) _
  · exact .ofOption (fun _ => Alike.text _ _) _

namespace Select

theorem columnsSql_alike (query : Select) :
    Alike (columnsSql spelling query) (columnsSql spelling' query) := by
  refine .append (Alike.text _ _) ?_
  split
  · exact Alike.text _ _
  · exact Expr.labeledListSql_alike spelling spelling' query.columns

theorem sourceSql_alike (query : Select) : Alike (sourceSql query) (sourceSql query) := by
  unfold sourceSql
  split
  · refine .append (.append (Alike.text _ _) (Alike.textIf _ _ _)) ?_
    exact .ofOption (fun sample => (Alike.text _ _).append sample.sql_alike) query.sample
  · split
    · exact .fail _
    · split
      · exact .fail _
      · exact .empty

theorem joinsSql_alike (joins : List Join) :
    Alike (joinsSql spelling joins) (joinsSql spelling' joins) := by
  induction joins with
  | nil => exact .empty
  | cons join rest inductionHypothesis =>
      exact ((Alike.text _ _).append (join.sql_alike spelling spelling')).append inductionHypothesis

theorem groupSql_alike (query : Select) :
    Alike (groupSql spelling query) (groupSql spelling' query) := by
  unfold groupSql
  split
  · exact .empty
  · exact ((Alike.text _ _).append (Expr.listSql_alike spelling spelling' query.groupBy)).append
      (Alike.textIf _ _ _)

theorem orderSql_alike (query : Select) :
    Alike (orderSql spelling query) (orderSql spelling' query) := by
  unfold orderSql
  split
  · exact .empty
  · exact (Alike.text _ _).append
      (Alike.joinMap (OrderItem.sql_alike spelling spelling') query.orderBy)

/-- A query binds the same values under every spelling, clause by clause. -/
theorem sql_alike (query : Select) : Alike (query.sql spelling) (query.sql spelling') := by
  have conditions (words : String) (condition : Option Expr) :
      Alike (Fragment.ofOption (fun e : Expr => .text words ++ e.sql spelling) condition)
        (Fragment.ofOption (fun e : Expr => .text words ++ e.sql spelling') condition) :=
    .ofOption (fun e => (Alike.text _ _).append (e.sql_alike spelling spelling')) condition
  refine .guarded _ ?_
  refine .append (.append (.append (.append (.append (.append (.append (.append (.append
    (.append (columnsSql_alike _ _ query) (sourceSql_alike query)) ?arrays)
    (joinsSql_alike _ _ query.joins)) (conditions _ _)) (groupSql_alike _ _ query))
    (conditions _ _)) (orderSql_alike _ _ query)) ?limitBy) ?limit) (settingsSql_alike _ _ _)
  case arrays =>
    exact .ofOption (fun a => (Alike.text _ _).append (a.sql_alike spelling spelling')) _
  case limitBy =>
    exact .ofOption (fun l => (Alike.text _ _).append (l.sql_alike spelling spelling')) _
  case limit =>
    exact .ofOption (fun n => (Alike.text _ _).append (limitSql_alike query.offset n)) _

end Select

/-- A deletion binds the same values under any two spellings, and is refused by
the same check. -/
theorem Delete.sql_alike (capabilities : Capabilities) (deletion : Delete) :
    Alike (deletion.sql capabilities spelling) (deletion.sql capabilities spelling') := by
  unfold Delete.sql
  split
  · exact .fail _
  · split
    · exact .fail _
    · exact (Alike.text _ _).append (Expr.sql_alike spelling spelling' _)

theorem Ttl.sql_alike (entry : Ttl) : Alike (entry.sql spelling) (entry.sql spelling') :=
  (Expr.sql_alike spelling spelling' entry.expr).append
    (.ofOption (fun _ => Alike.text _ _) entry.action)

theorem Key.sql_alike (key : Key) : Alike (Key.sql spelling key) (Key.sql spelling' key) := by
  unfold Key.sql
  split
  · exact Expr.sql_alike spelling spelling' _
  · exact ((Alike.text _ _).append (Expr.listSql_alike spelling spelling' key)).append
      (Alike.text _ _)

theorem Engine.keySql_alike (words : String) (key : Option Key) :
    Alike (keySql spelling words key) (keySql spelling' words key) := by
  unfold Engine.keySql
  split
  · exact .empty
  · exact .empty
  · exact (Alike.text _ _).append (Key.sql_alike spelling spelling' _)

/-- The clauses of an engine are alike under any two spellings. -/
theorem Engine.sql_alike (engine : Engine) :
    Alike (engine.sql spelling) (engine.sql spelling') := by
  have keys := Engine.keySql_alike spelling spelling'
  refine .append (.append (.append (.append (.append (.append (.append (.append
    (Alike.text _ _) (Expr.listSql_alike _ _ engine.args)) (Alike.text _ _)) (keys _ _))
    (keys _ _)) (keys _ _)) (keys _ _)) ?ttl) (settingsSql_alike _ _ _)
  case ttl =>
    split
    · exact .empty
    · exact (Alike.text _ _).append (Alike.joinMap (Ttl.sql_alike spelling spelling') engine.ttl)

theorem Column.sql_alike (column : Column) :
    Alike (column.sql spelling) (column.sql spelling') := by
  refine .guarded _ (.append (.append (Alike.text _ _) ?default) ?comment)
  case default =>
    exact .ofOption (fun e => (Alike.text _ _).append (e.sql_alike spelling spelling')) _
  case comment =>
    exact .ofOption (fun _ => Alike.text _ _) _

/-- The creation of a table is alike under any two spellings. -/
theorem CreateTable.sql_alike (creation : CreateTable) :
    Alike (creation.sql spelling) (creation.sql spelling') := by
  unfold CreateTable.sql
  split
  · exact .fail _
  · split
    · exact .fail _
    · exact (((Alike.text _ _).append (Alike.joinMap (Column.sql_alike spelling spelling') _)).append
        (Alike.text _ _)).append (Engine.sql_alike spelling spelling' _)

end Spellings

/-! ### Agreement of the modes -/

/-- The results of compiling one thing under all options, for values that
become `params` when they are bound.  Either all results are the same error.
Or there are texts for each style, one more than there are parameters, such
that binding puts the placeholders of the parameters between the texts, in
order, and writing out puts the literals of the same values there and binds
nothing.  The two styles that do not double percent signs share their texts. -/
def ModesAgree (compile : CompileOptions → Except Error CompiledStatement)
    (params : List Parameter) : Prop :=
  (∃ error, ∀ options, compile options = .error error) ∨
    ∃ texts : ParameterStyle → List String,
      texts .named = texts .qmark ∧
        ∀ style,
          (texts style).length = params.length + 1 ∧
          compile ⟨false, style⟩ =
            .ok ⟨interleave (texts style) (params.map fun p => style.placeholder p.name),
              params, []⟩ ∧
          compile ⟨true, style⟩ =
            .ok ⟨interleave (texts style)
                (params.map fun p => p.value.literal style.percentsDoubled), [], []⟩

namespace Fragment

/-- A fragment that stops at a fault compiles to that fault under all options.
-/
theorem compiled_of_fault {fragment : Fragment} {error : Error}
    (stopped : fragment.fault = some error) (options : CompileOptions) :
    fragment.compiled options = .error error := by
  simp only [compiled, spell, stopped]

/-- Binding puts placeholders between the texts of a complete fragment and
reports the parameters. -/
theorem compiled_bound {fragment : Fragment} (complete : fragment.fault = none)
    (style : ParameterStyle) :
    fragment.compiled ⟨false, style⟩ =
      let params := parametersFrom [] (bindings fragment.pieces)
      .ok ⟨interleave (segments fragment.pieces) (params.map fun p => style.placeholder p.name),
        params, []⟩ := by
  simp [compiled, spell, complete, spellPieces, spellBound_eq]

/-- Writing out puts literals between the texts of a complete fragment and
reports no parameter. -/
theorem compiled_literal {fragment : Fragment} (complete : fragment.fault = none)
    (style : ParameterStyle) :
    fragment.compiled ⟨true, style⟩ =
      let params := parametersFrom [] (bindings fragment.pieces)
      .ok ⟨interleave (segments fragment.pieces)
          (params.map fun p => p.value.literal style.percentsDoubled), [], []⟩ := by
  simp [compiled, spell, complete, spellPieces, spellLiteral_eq style []]

/-- A fragment may depend on the doubling of percent signs; if what it binds
does not, then the modes agree. -/
theorem modesAgree_compiled (write : Bool → Fragment)
    (alike : ∀ doubled, Alike (write false) (write doubled)) :
    ModesAgree (fun options => (write options.style.percentsDoubled).compiled options)
      (parametersFrom [] (bindings (write false).pieces)) := by
  cases stopped : (write false).fault with
  | some error =>
      refine .inl ⟨error, fun options => compiled_of_fault ?_ options⟩
      rw [← (alike options.style.percentsDoubled).fault, stopped]
  | none =>
      refine .inr ⟨fun style => segments (write style.percentsDoubled).pieces, rfl, ?_⟩
      intro style
      have complete : (write style.percentsDoubled).fault = none := by
        rw [← (alike style.percentsDoubled).fault, stopped]
      rw [bindings_eq_of_alike (alike style.percentsDoubled).pieces]
      refine ⟨?_, compiled_bound complete style, compiled_literal complete style⟩
      rw [length_segments, length_parametersFrom]

/-- Where values are always written out, nothing is bound in either mode. -/
theorem modesAgree_compiled_literal (write : Bool → Fragment)
    (alike : ∀ doubled, Alike (write false) (write doubled)) :
    ModesAgree
      (fun options =>
        (write options.style.percentsDoubled).compiled { options with literalBinds := true })
      [] := by
  rcases modesAgree_compiled write alike with ⟨error, stopped⟩ | ⟨texts, shared, agree⟩
  · exact .inl ⟨error, fun options => stopped { options with literalBinds := true }⟩
  · -- The whole text is the only segment.
    let whole (style : ParameterStyle) : String :=
      interleave (texts style)
        ((parametersFrom [] (bindings (write false).pieces)).map fun p =>
          p.value.literal style.percentsDoubled)
    refine .inr ⟨fun style => [whole style], ?_, ?_⟩
    · simp only [whole, shared, ParameterStyle.percentsDoubled]
    · intro style
      exact ⟨rfl, (agree style).2.2, (agree style).2.2⟩

end Fragment

/-- Binding values and writing them out agree.  For every query, deletion,
creation or removal of a table and for every expression, both modes fail with
the same error or consist of the same texts, with the parameters listed in the
order of their placeholders; tables are created and removed without
parameters. -/
theorem Statement.compile_modes_agree (capabilities : Capabilities) :
    (∀ query : Select, ∃ params,
      ModesAgree (fun options => (Statement.select query).compile capabilities options) params) ∧
    (∀ deletion : Delete, ∃ params,
      ModesAgree (fun options => (Statement.delete deletion).compile capabilities options) params) ∧
    (∀ creation : CreateTable,
      ModesAgree (fun options => (Statement.createTable creation).compile capabilities options) []) ∧
    (∀ removal : DropTable,
      ModesAgree (fun options => (Statement.dropTable removal).compile capabilities options) []) ∧
    (∀ e : Expr, ∃ params, ModesAgree (fun options => e.compile options) params) := by
  refine ⟨?query, ?deletion, ?creation, ?removal, ?expression⟩
  case query =>
    intro query
    exact ⟨_, Fragment.modesAgree_compiled (fun doubled => query.sql ⟨doubled, true⟩)
      fun doubled => query.sql_alike ⟨false, true⟩ ⟨doubled, true⟩⟩
  case deletion =>
    intro deletion
    exact ⟨_, Fragment.modesAgree_compiled
      (fun doubled => deletion.sql capabilities ⟨doubled, false⟩)
      fun doubled => deletion.sql_alike ⟨false, false⟩ ⟨doubled, false⟩ capabilities⟩
  case creation =>
    intro creation
    exact Fragment.modesAgree_compiled_literal
      (fun doubled => creation.sql ⟨doubled, false⟩)
      fun doubled => creation.sql_alike ⟨false, false⟩ ⟨doubled, false⟩
  case removal =>
    intro removal
    exact .inr ⟨fun _ => [removal.text], rfl, fun _ => ⟨rfl, rfl, rfl⟩⟩
  case expression =>
    intro e
    exact ⟨_, Fragment.modesAgree_compiled (fun doubled => e.labeledSql ⟨doubled, false⟩)
      fun doubled => e.labeledSql_alike ⟨false, false⟩ ⟨doubled, false⟩⟩

end ColumnarSql
