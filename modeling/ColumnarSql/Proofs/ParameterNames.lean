/-
Module: ColumnarSql.Proofs.ParameterNames
Purpose: Parameters are identified by their names.  Names follow the keys of
  the bound values, no two are equal, and in the text a placeholder ends where
  its name ends.
Main exports:
  Parameter.name_injective, parametersFrom_names_nodup, find?_name, NamedAfter,
  ParametersIdentified, Statement.compile_params_identified
-/
import ColumnarSql.Proofs.BoundValues
import ColumnarSql.Proofs.TypeRoundTrip

namespace ColumnarSql

open Text

/-! ### Names of parameters

A name is a base, an underscore and a number.  The base may itself end in an
underscore and digits, but the number never contains an underscore, so the last
underscore of a name is the one in front of the number. -/

namespace Parameter

/-- The name of a parameter is its base, an underscore and its number. -/
theorem toList_name (p : Parameter) :
    p.name.toList = p.base.toList ++ '_' :: digitsOf p.number := by
  rw [name, String.toList_append, String.toList_append, toList_toString_nat,
    List.append_assoc]
  rfl

/-- Different numbers have different digits. -/
theorem digitsOf_injective {m n : Nat} (same : digitsOf m = digitsOf n) : m = n := by
  rw [← digitsValue_digitsOf m, same, digitsValue_digitsOf]

/-- A name determines base and number: the digits behind the last underscore are
the number. -/
theorem name_injective {p q : Parameter} (same : p.name = q.name) :
    p.base = q.base ∧ p.number = q.number := by
  -- Read from the end, a name is the run of its digits and then the rest.
  have reversed (r : Parameter) :
      r.name.toList.reverse = (digitsOf r.number).reverse ++ '_' :: r.base.toList.reverse := by
    simp [toList_name]
  have digits (r : Parameter) : ∀ c ∈ (digitsOf r.number).reverse, c.isDigit = true := by
    intro c member
    exact mem_of_isDigits (isDigits_digitsOf r.number) c
      (List.mem_reverse.mp member)
  have stops (r : Parameter) : ∀ c ∈ ('_' :: r.base.toList.reverse).head?, c.isDigit = false := by
    intro c first
    cases first
    rfl
  have number (r : Parameter) :
      r.name.toList.reverse.takeWhile Char.isDigit = (digitsOf r.number).reverse := by
    rw [reversed, takeWhile_run (digits r) (stops r)]
  have base (r : Parameter) :
      r.name.toList.reverse.dropWhile Char.isDigit = '_' :: r.base.toList.reverse := by
    rw [reversed, dropWhile_run (digits r) (stops r)]
  constructor
  · have sameTail := base p
    rw [same, base q, List.cons.injEq, List.reverse_inj] at sameTail
    exact (String.toList_injective sameTail.2).symm
  · have sameDigits := number p
    rw [same, number q, List.reverse_inj] at sameDigits
    exact (digitsOf_injective sameDigits).symm

end Parameter

/-- A parameter is numbered above those with its base that were bound
before. -/
theorem countP_lt_number {earlier : List Parameter} {values : List (Option String × Value)}
    {p : Parameter} (member : p ∈ parametersFrom earlier values) :
    earlier.countP (fun q => q.base == p.base) < p.number := by
  induction values generalizing earlier with
  | nil => cases member
  | cons value rest inductionHypothesis =>
      rcases List.mem_cons.mp member with rfl | later
      · exact Nat.lt_succ_self _
      · have counted := inductionHypothesis later
        rw [List.countP_append] at counted
        omega

/-- No two parameters have the same name, whatever their keys are. -/
theorem parametersFrom_names_nodup (earlier : List Parameter)
    (values : List (Option String × Value)) :
    ((parametersFrom earlier values).map Parameter.name).Nodup := by
  induction values generalizing earlier with
  | nil => exact List.nodup_nil
  | cons value rest inductionHypothesis =>
      rw [parametersFrom, List.map_cons, List.nodup_cons]
      refine ⟨?_, inductionHypothesis _⟩
      intro repeated
      obtain ⟨q, later, sameName⟩ := List.mem_map.mp repeated
      obtain ⟨sameBase, sameNumber⟩ := Parameter.name_injective sameName
      have counted := countP_lt_number later
      -- The parameter itself is among those counted for `q`.
      rw [List.countP_append, List.countP_singleton, sameBase, sameNumber] at counted
      simp [Parameter.next] at counted

/-- Where names are distinct, the name of a parameter finds that parameter. -/
theorem find?_name {params : List Parameter} (distinct : (params.map Parameter.name).Nodup)
    {p : Parameter} (member : p ∈ params) :
    params.find? (fun q => q.name == p.name) = some p := by
  induction params with
  | nil => cases member
  | cons first rest inductionHypothesis =>
      rw [List.map_cons, List.nodup_cons] at distinct
      rcases List.mem_cons.mp member with rfl | later
      · simp
      · have different : first.name ≠ p.name := by
          intro same
          exact distinct.1 (same ▸ List.mem_map_of_mem later)
        rw [List.find?_cons_of_neg (by simpa using different)]
        exact inductionHypothesis distinct.2 later

/-- The parameters of values that are bound in this order: each is named after
the base of its key, with a number that counts the values with the same base up
to it. -/
structure NamedAfter (bound : List (Option String × Value)) (params : List Parameter) : Prop where
  length : params.length = bound.length
  entry : ∀ (i : Nat) (key : Option String) (value : Value), bound[i]? = some (key, value) →
    ∃ p, params[i]? = some p ∧ p.value = value ∧
      p.name = Parameter.baseOf key ++ "_" ++
        toString ((bound.take i).countP
          (fun earlier => Parameter.baseOf earlier.1 == Parameter.baseOf key) + 1)

/-- The base of each parameter comes from the key of its value. -/
theorem map_base_parametersFrom (earlier : List Parameter)
    (values : List (Option String × Value)) :
    (parametersFrom earlier values).map Parameter.base =
      values.map fun value => Parameter.baseOf value.1 := by
  induction values generalizing earlier with
  | nil => rfl
  | cons value rest inductionHypothesis =>
      rw [parametersFrom, List.map_cons, List.map_cons, inductionHypothesis]
      rfl

/-- The parameter at a place is the next one after all parameters before it. -/
theorem getElem?_parametersFrom (earlier : List Parameter)
    (values : List (Option String × Value)) (i : Nat) :
    (parametersFrom earlier values)[i]? =
      values[i]?.map fun value =>
        Parameter.next (earlier ++ parametersFrom earlier (values.take i)) value.1 value.2 := by
  induction values generalizing earlier i with
  | nil => rfl
  | cons value rest inductionHypothesis =>
      cases i with
      | zero => simp [parametersFrom]
      | succ i => simp [parametersFrom, inductionHypothesis]

/-- Parameters are named after the keys of the values that they stand for. -/
theorem namedAfter_parametersFrom (bound : List (Option String × Value)) :
    NamedAfter bound (parametersFrom [] bound) := by
  refine ⟨length_parametersFrom [] bound, ?_⟩
  intro i key value found
  refine ⟨Parameter.next (parametersFrom [] (bound.take i)) key value, ?_, rfl, ?_⟩
  · rw [getElem?_parametersFrom, found, Option.map_some, List.nil_append]
  · have sameBases := map_base_parametersFrom [] (bound.take i)
    have counts : (parametersFrom [] (bound.take i)).countP
          (fun p => p.base == Parameter.baseOf key) =
        (bound.take i).countP
          (fun earlier => Parameter.baseOf earlier.1 == Parameter.baseOf key) := by
      have counted := congrArg (List.countP (· == Parameter.baseOf key)) sameBases
      rwa [List.countP_map, List.countP_map] at counted
    rw [Parameter.name, Parameter.next, counts]

/-! ### Placeholders in the text -/

/-- A text starts with a character that cannot belong to a name, or is
empty. -/
def Clear (s : String) : Prop :=
  ∀ c ∈ s.toList.head?, isWordChar c = false

theorem clear_empty : Clear "" := by
  intro c first
  cases first

/-- A text that starts outside names is clear of the placeholder before it. -/
theorem clear_append_of_outside {s : String} (outside : startsOutside s = true) (t : String) :
    Clear (s ++ t) := by
  intro c first
  have start := startsOutside_append outside t
  rw [startsOutside, Option.mem_def.mp first] at start
  simpa using start

/-- The first text is clear if the first piece ends a name. -/
theorem clear_head_segments (pieces : List Piece)
    (opens : ∀ piece ∈ pieces.head?, piece.endsName = true) :
    ∀ s ∈ (segments pieces).head?, Clear s := by
  intro s first
  rcases pieces with _ | ⟨_ | _, rest⟩
  · cases first
    exact clear_empty
  · rename_i t
    have outside : startsOutside t = true := opens _ rfl
    cases found : segments rest with
    | nil => exact absurd found (segments_ne_nil rest)
    | cons next more =>
        rw [segments, found, prependText] at first
        cases first
        exact clear_append_of_outside outside next
  · cases first
    exact clear_empty

/-- Every text behind a placeholder is clear of its name. -/
theorem clear_tail_segments {pieces : List Piece} (apart : pieces.IsChain Piece.Apart) :
    ∀ s ∈ (segments pieces).tail, Clear s := by
  induction pieces with
  | nil =>
      intro s member
      cases member
  | cons piece rest inductionHypothesis =>
      obtain ⟨next, apartRest⟩ := List.isChain_cons.mp apart
      have later := inductionHypothesis apartRest
      cases found : segments rest with
      | nil => exact absurd found (segments_ne_nil rest)
      | cons first more =>
          rw [found] at later
          cases piece with
          | text s =>
              rw [segments, found, prependText]
              exact later
          | bound key value =>
              have opens := clear_head_segments rest next
              rw [segments, List.tail_cons, found]
              intro s member
              rcases List.mem_cons.mp member with rfl | member
              · exact opens s (found ▸ rfl)
              · exact later s member

/-- The text up to a mark, the mark, and the text behind it. -/
theorem interleave_split (texts marks : List String) (lengths : texts.length = marks.length + 1)
    {i : Nat} (inside : i < marks.length) :
    interleave texts marks =
      interleave (texts.take (i + 1)) (marks.take i) ++ marks[i] ++
        interleave (texts.drop (i + 1)) (marks.drop (i + 1)) := by
  induction i generalizing texts marks with
  | zero =>
      rcases texts with _ | ⟨s, texts⟩
      · cases lengths
      rcases marks with _ | ⟨mark, marks⟩
      · cases inside
      simp [interleave]
  | succ i inductionHypothesis =>
      rcases texts with _ | ⟨s, texts⟩
      · cases lengths
      rcases marks with _ | ⟨mark, marks⟩
      · cases inside
      have rest := inductionHypothesis texts marks
        (by simpa using lengths) (by simpa using inside)
      simp [interleave, rest, String.append_assoc]

/-- The placeholders of parameters in the style that names them. -/
def namedMarks (params : List Parameter) : List String :=
  params.map fun p => ":" ++ p.name

/-- Texts that are clear stay so with placeholders between them. -/
theorem clear_interleave {texts : List String} (params : List Parameter)
    (clear : ∀ s ∈ texts, Clear s) : Clear (interleave texts (namedMarks params)) := by
  rcases texts with _ | ⟨s, texts⟩
  · exact clear_empty
  have first := clear s (by simp)
  cases params with
  | nil => exact first
  | cons p params =>
      intro c start
      rw [namedMarks, List.map_cons, interleave, String.append_assoc, String.toList_append,
        List.head?_append] at start
      cases found : s.toList.head? with
      | some d =>
          rw [found, Option.some_or] at start
          exact first c (found ▸ start)
      | none =>
          rw [found, Option.none_or, String.append_assoc] at start
          exact clear_append_of_outside (s := ":") rfl _ c start

/-- The texts around the placeholders, which the two styles without percent
signs share, and behind every named placeholder something that ends its
name. -/
def PlaceholdersDelimited (compile : CompileOptions → Except Error CompiledStatement)
    (params : List Parameter) (rows : List (List Value)) : Prop :=
  ∃ texts : List String,
    texts.length = params.length + 1 ∧
    compile ⟨false, .named⟩ = .ok ⟨interleave texts (namedMarks params), params, rows⟩ ∧
    compile ⟨false, .qmark⟩ = .ok ⟨interleave texts (params.map fun _ => "?"), params, rows⟩ ∧
    ∀ (i : Nat) (inside : i < params.length), ∃ before after,
      before = interleave (texts.take (i + 1)) (namedMarks (params.take i)) ∧
      interleave texts (namedMarks params) = before ++ (":" ++ params[i].name) ++ after ∧
      ∀ c ∈ after.toList.head?, isWordChar c = false

/-- The parameters of a compiled statement are identified by their names: they
are named after the keys of the bound values, no two names are equal, looking
up a name finds the value, and a placeholder in the text ends where its name
ends. -/
structure ParametersIdentified (compile : CompileOptions → Except Error CompiledStatement)
    (bound : List (Option String × Value)) (compiled : CompiledStatement) : Prop where
  named : NamedAfter bound compiled.params
  distinct : (compiled.params.map Parameter.name).Nodup
  found : ∀ p ∈ compiled.params, compiled.param? p.name = some p.value
  delimited : PlaceholdersDelimited compile compiled.params compiled.rows

/-- Where names are distinct, looking a parameter up by name finds its own
value. -/
theorem param?_name {compiled : CompiledStatement}
    (distinct : (compiled.params.map Parameter.name).Nodup) {p : Parameter}
    (member : p ∈ compiled.params) : compiled.param? p.name = some p.value := by
  rw [CompiledStatement.param?, find?_name distinct member, Option.map_some]

namespace Fragment

/-- Only a complete fragment compiles. -/
theorem complete_of_compiled {fragment : Fragment} {options : CompileOptions}
    {compiled : CompiledStatement} (succeeds : fragment.compiled options = .ok compiled) :
    fragment.fault = none := by
  cases stopped : fragment.fault with
  | none => rfl
  | some error =>
      rw [compiled_of_fault stopped] at succeeds
      cases succeeds

/-- A fragment may depend on the doubling of percent signs; if what it binds
does not, then its parameters are identified in every style. -/
theorem parametersIdentified_compiled (write : Bool → Fragment)
    {values : List (Option String × Value)} (binds : ∀ doubled, Binds values (write doubled))
    (alike : ∀ doubled, Alike (write false) (write doubled)) {style : ParameterStyle}
    {compiled : CompiledStatement}
    (succeeds : (write style.percentsDoubled).compiled ⟨false, style⟩ = .ok compiled) :
    ParametersIdentified (fun options => (write options.style.percentsDoubled).compiled options)
      values compiled := by
  have complete := complete_of_compiled succeeds
  have completePlain : (write false).fault = none := by
    rw [(alike style.percentsDoubled).fault, complete]
  have listed := (binds false).lists completePlain
  rw [compiled_bound complete, (binds style.percentsDoubled).lists complete] at succeeds
  cases succeeds
  have distinct := parametersFrom_names_nodup [] values
  refine ⟨namedAfter_parametersFrom values, distinct, fun p member => param?_name distinct member, ?_⟩
  -- The styles without percent signs share the texts of the plain fragment.
  let texts := segments (write false).pieces
  have lengths : texts.length = (parametersFrom [] values).length + 1 := by
    rw [length_segments, length_parametersFrom, listed]
  have spelled (style : ParameterStyle) := compiled_bound completePlain style
  rw [listed] at spelled
  refine ⟨texts, lengths, spelled .named, spelled .qmark, ?_⟩
  intro i inside
  have split := interleave_split texts (namedMarks (parametersFrom [] values))
    (by simpa [namedMarks] using lengths) (i := i) (by simpa [namedMarks] using inside)
  refine ⟨_, interleave (texts.drop (i + 1)) (namedMarks ((parametersFrom [] values).drop (i + 1))),
    rfl, ?_, ?_⟩
  · simpa [namedMarks] using split
  · refine clear_interleave _ ?_
    intro s member
    rw [Nat.add_comm, ← List.drop_drop, List.drop_one] at member
    exact clear_tail_segments (binds false).apart s (List.mem_of_mem_drop member)

end Fragment

/-- An insertion with its rows beside the text is the same in every style. -/
theorem Insert.compile_style (insertion : Insert) (style : ParameterStyle) :
    insertion.compile ⟨false, style⟩ = insertion.compile ⟨false, .named⟩ := by
  simp [Insert.compile]

/-- An insertion that compiles binds nothing; its rows are sent beside the
text. -/
theorem Insert.compile_eq_ok {insertion : Insert} {style : ParameterStyle}
    {compiled : CompiledStatement} (succeeds : insertion.compile ⟨false, style⟩ = .ok compiled) :
    ∃ columns rows, insertion.filledColumns = .ok columns ∧
      compiled = ⟨headText insertion.table.name columns, [], rows⟩ := by
  simp only [Insert.compile] at succeeds
  split at succeeds
  · cases succeeds
  · rename_i columns filled
    split at succeeds
    · cases succeeds
    · split at succeeds
      · cases succeeds
      · rename_i rows stored
        cases succeeds
        exact ⟨columns, rows, filled, rfl⟩

/-- Where nothing is bound there is nothing to identify. -/
theorem parametersIdentified_of_unbound
    {compile : CompileOptions → Except Error CompiledStatement} {sql : String}
    {compiled : CompiledStatement} (unbound : compiled.params = [])
    (named : compile ⟨false, .named⟩ = .ok ⟨sql, [], compiled.rows⟩)
    (qmark : compile ⟨false, .qmark⟩ = .ok ⟨sql, [], compiled.rows⟩) :
    ParametersIdentified compile [] compiled := by
  obtain ⟨_, _, rows⟩ := compiled
  cases unbound
  refine ⟨⟨rfl, ?_⟩, List.nodup_nil, ?_, [sql], rfl, named, qmark, ?_⟩
  · intro i key value found
    cases found
  · intro p member
    cases member
  · intro i inside
    cases inside

/-- Parameters are identified by their names, in every statement and every
expression that compiles with bound values. -/
theorem Statement.compile_params_identified :
    (∀ (capabilities : Capabilities) (statement : Statement) (style : ParameterStyle)
        (compiled : CompiledStatement),
      statement.compile capabilities ⟨false, style⟩ = .ok compiled →
        ParametersIdentified (fun options => statement.compile capabilities options)
          statement.bound compiled) ∧
    (∀ (e : Expr) (style : ParameterStyle) (compiled : CompiledStatement),
      e.compile ⟨false, style⟩ = .ok compiled →
        ParametersIdentified (fun options => e.compile options) e.labeledBound compiled) := by
  constructor
  · intro capabilities statement style compiled succeeds
    cases statement with
    | select query =>
        exact Fragment.parametersIdentified_compiled (fun doubled => query.sql ⟨doubled, true⟩)
          (fun _ => query.sql_binds _) (fun _ => query.sql_alike _ _) succeeds
    | delete deletion =>
        exact Fragment.parametersIdentified_compiled
          (fun doubled => deletion.sql capabilities ⟨doubled, false⟩)
          (fun _ => deletion.sql_binds _ capabilities) (fun _ => deletion.sql_alike _ _ capabilities)
          succeeds
    | insert insertion =>
        have named := (insertion.compile_style style).symm.trans succeeds
        have qmark := (insertion.compile_style .qmark).trans named
        obtain ⟨columns, rows, -, rfl⟩ := Insert.compile_eq_ok succeeds
        exact parametersIdentified_of_unbound rfl named qmark
    | createTable creation =>
        rcases Fragment.modesAgree_compiled_literal (fun doubled => creation.sql ⟨doubled, false⟩)
            (fun _ => creation.sql_alike _ _) with ⟨error, stopped⟩ | ⟨texts, shared, agree⟩
        · exact nomatch (stopped ⟨false, style⟩).symm.trans succeeds
        · rw [show Statement.compile capabilities ⟨false, style⟩ (.createTable creation) = _ from
            (agree style).2.1] at succeeds
          cases succeeds
          exact parametersIdentified_of_unbound rfl (agree .named).2.1
            (shared ▸ (agree .qmark).2.1)
    | dropTable removal =>
        cases succeeds
        exact parametersIdentified_of_unbound rfl rfl rfl
  · intro e style compiled succeeds
    exact Fragment.parametersIdentified_compiled (fun doubled => e.labeledSql ⟨doubled, false⟩)
      (fun _ => e.labeledSql_binds _) (fun _ => e.labeledSql_alike _ _) succeeds

/-- Keys that look like names of other keys, or share a base with them, still
give four names in a deletion and in an expression. -/
theorem Statement.compile_params_identified_similar_keys :
    let call : Expr := .function "f" [.bind (some "x") .null, .bind (some "x_1") .null,
      .bind (some "x.1") .null, .bind (some "x") .null]
    let deletion : Statement := .delete ⟨"t", some call⟩
    ∃ compiled compiled',
      deletion.compile {} ⟨false, .named⟩ = .ok compiled ∧
      call.compile ⟨false, .pyformat⟩ = .ok compiled' ∧
      compiled.params.map Parameter.name = ["x_1", "x_1_1", "x_1_2", "x_2"] ∧
      ParametersIdentified (fun options => deletion.compile {} options) deletion.bound compiled ∧
      ParametersIdentified (fun options => call.compile options) call.labeledBound compiled' := by
  refine ⟨_, _, rfl, rfl, ?_, ?_, ?_⟩
  · decide
  · exact Statement.compile_params_identified.1 _ _ .named _ rfl
  · exact Statement.compile_params_identified.2 _ .pyformat _ rfl

end ColumnarSql
