/-
Module: ColumnarSql.Proofs.InsertedRows
Purpose: An insertion sends all its rows converted, or none.
Main exports:
  Insert.targets, Insert.StoredAs, Insert.RowFits, Insert.RowFault,
  Insert.storeRows_cases, Insert.IsStorable, Insert.compile_sends_rows
-/
import ColumnarSql.Statement.Compile
import Mathlib.Data.List.Forall2

namespace ColumnarSql.Insert

open Text

/-! ### Rows

A row is judged by itself: it fits the columns, and then its stored form is
determined, or it has a first fault. -/

/-- The value at a place converts for the column at that place. -/
def ConvertsAt (columns : List Column) (row : List Value) (place : Nat) : Prop :=
  ∀ column value, columns[place]? = some column → row[place]? = some value →
    ∃ stored, column.type.coerce value = .ok stored

/-- One value for each column, and all of them convert. -/
structure RowFits (columns : List Column) (row : List Value) : Prop where
  length : row.length = columns.length
  converts : ∀ place, ConvertsAt columns row place

/-- At each place the stored value is the given one, converted for the column
at that place. -/
structure StoredAs (columns : List Column) (row stored : List Value) : Prop where
  length : row.length = columns.length
  storedLength : stored.length = columns.length
  converted : ∀ (place : Nat) (column : Column) (value : Value), columns[place]? = some column →
    row[place]? = some value → ∃ kept, stored[place]? = some kept ∧ column.type.coerce value = .ok kept

/-- What is wrong with the row of a number: its length, or else its first value
that does not convert. -/
inductive RowFault (columns : List Column) (index : Nat) (row : List Value) : ValueFault → Prop where
  | length : row.length ≠ columns.length →
      RowFault columns index row (.rowLength index row.length columns.length)
  | value {place : Nat} {column : Column} {value : Value} {fault : ValueFault} :
      row.length = columns.length → columns[place]? = some column → row[place]? = some value →
      (∀ earlier < place, ConvertsAt columns row earlier) →
      column.type.coerce value = .error fault →
        RowFault columns index row (.inColumn column.name fault)

variable {columns : List Column} {column : Column} {row stored : List Value} {value : Value}

/-- A row that has been stored fits its columns. -/
theorem StoredAs.fits (converted : StoredAs columns row stored) : RowFits columns row := by
  refine ⟨converted.length, ?_⟩
  intro place column value isColumn isValue
  obtain ⟨kept, _, coerced⟩ := converted.converted place column value isColumn isValue
  exact ⟨kept, coerced⟩

/-- A row with a fault does not fit its columns. -/
theorem RowFault.not_fits {index : Nat} {fault : ValueFault}
    (wrong : RowFault columns index row fault) : ¬ RowFits columns row := by
  intro fits
  cases wrong with
  | length different => exact different fits.length
  | value _ isColumn isValue _ failed =>
      obtain ⟨kept, coerced⟩ := fits.converts _ _ _ isColumn isValue
      rw [coerced] at failed
      cases failed

theorem StoredAs.nil : StoredAs [] [] [] :=
  ⟨rfl, rfl, by simp⟩

/-- One more column and its converted value extend a stored row at the front. -/
theorem StoredAs.cons {kept : Value} (first : column.type.coerce value = .ok kept)
    (others : StoredAs columns row stored) :
    StoredAs (column :: columns) (value :: row) (kept :: stored) := by
  refine ⟨congrArg (· + 1) others.length, congrArg (· + 1) others.storedLength, ?_⟩
  intro place column' value' isColumn isValue
  cases place with
  | zero =>
      cases isColumn
      cases isValue
      exact ⟨kept, rfl, first⟩
  | succ place => exact others.converted place column' value' isColumn isValue

theorem convertsAt_zero {kept : Value} (coerced : column.type.coerce value = .ok kept) :
    ConvertsAt (column :: columns) (value :: row) 0 := by
  rintro column' value' ⟨⟩ ⟨⟩
  exact ⟨kept, coerced⟩

/-- The values of a row of the right length are stored, or the first that does
not convert is reported with its column. -/
theorem storeValues_cases (length : row.length = columns.length) :
    (∃ stored, storeValues columns row = .ok stored ∧ StoredAs columns row stored) ∨
      ∃ place column value fault, storeValues columns row = .error (.inColumn column.name fault) ∧
        columns[place]? = some column ∧ row[place]? = some value ∧
        (∀ earlier < place, ConvertsAt columns row earlier) ∧
        column.type.coerce value = .error fault := by
  induction columns generalizing row with
  | nil =>
      cases List.length_eq_zero_iff.mp length
      exact .inl ⟨[], rfl, .nil⟩
  | cons column columns inductionHypothesis =>
      cases row with
      | nil => cases length
      | cons value row =>
          -- A value that does not convert hides all faults to its right.
          cases coerced : column.type.coerce value with
          | error fault =>
              refine .inr ⟨0, column, value, fault, ?_, rfl, rfl, by simp, coerced⟩
              simp [storeValues, coerced, Coercion.consItem, Except.mapError]
          | ok kept =>
              have first : (column.type.coerce value).mapError (ValueFault.inColumn column.name) =
                  .ok kept := by
                rw [coerced]
                rfl
              rcases inductionHypothesis (Nat.succ.inj length) with
                ⟨stored, later, converted⟩ |
                  ⟨place, column', value', fault, later, isColumn, isValue, before, failed⟩
              · refine .inl ⟨kept :: stored, ?_, .cons coerced converted⟩
                rw [storeValues, first, later, Coercion.consItem]
              · refine .inr ⟨place + 1, column', value', fault, ?_, isColumn, isValue, ?_, failed⟩
                · rw [storeValues, first, later, Coercion.consItem]
                · rintro (_ | earlier) less
                  · exact convertsAt_zero coerced
                  · exact before earlier (Nat.lt_of_succ_lt_succ less)

/-- A row is stored value by value, or it has a fault and that fault is
reported. -/
theorem storeRow_cases (columns : List Column) (index : Nat) (row : List Value) :
    (∃ stored, storeRow columns index row = .ok stored ∧ StoredAs columns row stored) ∨
      ∃ fault, storeRow columns index row = .error fault ∧ RowFault columns index row fault := by
  by_cases length : row.length = columns.length
  · have checked : storeRow columns index row = storeValues columns row := by
      simp [storeRow, length]
    rw [checked]
    rcases storeValues_cases length with
      done | ⟨place, column, value, fault, stopped, isColumn, isValue, before, failed⟩
    · exact .inl done
    · exact .inr ⟨_, stopped, .value length isColumn isValue before failed⟩
  · refine .inr ⟨_, ?_, .length length⟩
    simp [storeRow, length]

/-- Rows are all stored, in their order, or the first row with a fault is
reported. -/
theorem storeRows_cases (columns : List Column) (index : Nat) (rows : List (List Value)) :
    (∃ stored, storeRows columns index rows = .ok stored ∧
        List.Forall₂ (StoredAs columns) rows stored) ∨
      ∃ fault place row, storeRows columns index rows = .error fault ∧ rows[place]? = some row ∧
        (∀ earlier ∈ rows.take place, RowFits columns earlier) ∧
        RowFault columns (index + place) row fault := by
  -- The rows behind the first are numbered from the next index on.
  induction rows generalizing index with
  | nil => exact .inl ⟨[], rfl, .nil⟩
  | cons row rows inductionHypothesis =>
      rcases storeRow_cases columns index row with ⟨stored, first, converted⟩ | ⟨fault, first, wrong⟩
      · rcases inductionHypothesis (index + 1) with
          ⟨others, later, allConverted⟩ | ⟨fault, place, row', later, isRow, before, wrong⟩
        · refine .inl ⟨stored :: others, ?_, .cons converted allConverted⟩
          rw [storeRows, first, later]
        · refine .inr ⟨fault, place + 1, row', ?_, isRow, ?_, ?_⟩
          · rw [storeRows, first, later]
          · rw [List.take_succ_cons, List.forall_mem_cons]
            exact ⟨converted.fits, before⟩
          · rwa [Nat.add_right_comm, Nat.add_assoc] at wrong
      · refine .inr ⟨fault, 0, row, ?_, rfl, by simp, wrong⟩
        rw [storeRows, first]

/-- If all rows have been stored, all of them fit. -/
theorem fits_of_stored {rows stored : List (List Value)}
    (converted : List.Forall₂ (StoredAs columns) rows stored) :
    ∀ row ∈ rows, RowFits columns row := by
  induction converted with
  | nil => simp
  | cons first _ inductionHypothesis =>
      rw [List.forall_mem_cons]
      exact ⟨first.fits, inductionHypothesis⟩

/-! ### Columns -/

/-- The columns that receive values: the listed ones, or all if none are
listed. -/
def targets (insertion : Insert) : List Column :=
  if insertion.columns.isEmpty then insertion.table.columns
  else insertion.columns.filterMap insertion.table.column?

/-- Listed columns that exist are found in the table. -/
theorem collect_filledColumn {table : Table} {names : List String}
    (known : ∀ name ∈ names, table.hasColumn name = true) :
    collect (filledColumn table) names = .ok (names.filterMap table.column?) := by
  induction names with
  | nil => rfl
  | cons name names inductionHypothesis =>
      rw [List.forall_mem_cons] at known
      obtain ⟨column, found⟩ := Option.isSome_iff_exists.mp known.1
      rw [List.filterMap_cons_some found, collect, filledColumn_eq_ok_iff.mpr found,
        inductionHypothesis known.2]

/-- Finding all listed columns shows that they exist. -/
theorem known_of_collect {table : Table} {names : List String} {columns : List Column}
    (filled : collect (filledColumn table) names = .ok columns) :
    ∀ name ∈ names, table.hasColumn name = true := by
  intro name member
  have kept := List.mem_map_of_mem (f := filledColumn table) member
  rw [collect_eq_ok_iff.mp filled] at kept
  obtain ⟨column, _, found⟩ := List.mem_map.mp kept
  rw [Table.hasColumn, filledColumn_eq_ok_iff.mp found.symm]
  rfl

/-- The columns to fill are the targets, exactly if all listed columns exist. -/
theorem filledColumns_eq_ok_iff {insertion : Insert} {columns : List Column} :
    insertion.filledColumns = .ok columns ↔
      (∀ name ∈ insertion.columns, insertion.table.hasColumn name = true) ∧
        columns = insertion.targets := by
  rw [filledColumns, targets]
  cases listed : insertion.columns with
  | nil =>
      constructor
      · intro filled
        exact ⟨by simp, (Except.ok.inj filled).symm⟩
      · rintro ⟨_, rfl⟩
        rfl
  | cons name names =>
      constructor
      · intro filled
        have known := known_of_collect filled
        refine ⟨known, ?_⟩
        have found := (collect_filledColumn known).symm.trans filled
        exact (Except.ok.inj found).symm
      · rintro ⟨known, rfl⟩
        exact collect_filledColumn known

/-! ### Insertions -/

/-- The listed columns exist, there is a column to fill, and every row fits. -/
structure IsStorable (insertion : Insert) : Prop where
  known : ∀ name ∈ insertion.columns, insertion.table.hasColumn name = true
  nonempty : insertion.targets ≠ []
  fits : ∀ row ∈ insertion.rows, RowFits insertion.targets row

section

variable {insertion : Insert}
  (known : ∀ name ∈ insertion.columns, insertion.table.hasColumn name = true)
  (nonempty : insertion.targets ≠ [])

include known nonempty

/-- A fault in a row is reported under all options. -/
theorem compile_of_fault {fault : ValueFault}
    (stopped : storeRows insertion.targets 0 insertion.rows = .error fault)
    (options : CompileOptions) : insertion.compile options = .error (.value fault) := by
  have filled := filledColumns_eq_ok_iff.mpr ⟨known, rfl⟩
  simp [compile, filled, nonempty, stopped]

/-- Converted rows are sent beside the text where values are bound, and behind
it where they are written out. -/
theorem compile_of_stored {rows : List (List Value)}
    (stored : storeRows insertion.targets 0 insertion.rows = .ok rows) (style : ParameterStyle) :
    insertion.compile ⟨false, style⟩ =
        .ok ⟨headText insertion.table.name insertion.targets, [], rows⟩ ∧
      insertion.compile ⟨true, style⟩ =
        .ok ⟨headText insertion.table.name insertion.targets ++
          rowsText style.percentsDoubled rows, [], []⟩ := by
  have filled := filledColumns_eq_ok_iff.mpr ⟨known, rfl⟩
  constructor
  · simp [compile, filled, nonempty, stored]
  · simp [compile, filled, nonempty, stored]

end

/-- Without the columns the rows are not looked at. -/
theorem compile_of_unknown {insertion : Insert}
    (missing : ¬ ((∀ name ∈ insertion.columns, insertion.table.hasColumn name = true) ∧
      insertion.targets ≠ [])) :
    ∃ error, ∀ options, insertion.compile options = .error error := by
  cases filled : insertion.filledColumns with
  | error error => exact ⟨error, fun options => by rw [compile, filled]⟩
  | ok columns =>
      obtain ⟨known, rfl⟩ := filledColumns_eq_ok_iff.mp filled
      have empty : insertion.targets = [] := by
        by_contra nonempty
        exact missing ⟨known, nonempty⟩
      refine ⟨.compile (.noInsertColumns insertion.table.name), fun options => ?_⟩
      simp [compile, filled, empty]

/-- The rows as they are written behind the text that sends them separately. -/
def writtenBehind (sql : String) (percentsDoubled : Bool) (rows : List (List Value)) : String :=
  if rows.isEmpty then sql
  else sql ++ " " ++ joinWith ", "
    (rows.map fun row => "(" ++ joinWith ", " (row.map (Value.literal percentsDoubled)) ++ ")")

theorem writtenBehind_eq (sql : String) (percentsDoubled : Bool) (rows : List (List Value)) :
    writtenBehind sql percentsDoubled rows = sql ++ rowsText percentsDoubled rows := by
  rw [writtenBehind, rowsText]
  split
  · rw [String.append_empty]
  · rw [String.append_assoc]
    rfl

/-- What is compiled with bound values and with literals: both succeed exactly
for a storable insertion; then the converted rows are sent beside the text, or
stand behind it; otherwise both fail alike, and if a row is at fault, the first
such row is reported. -/
structure SendsRows (insertion : Insert) (percentsDoubled : Bool)
    (bound literal : Except Error CompiledStatement) : Prop where
  bound_iff : (∃ compiled, bound = .ok compiled) ↔ insertion.IsStorable
  literal_iff : (∃ compiled, literal = .ok compiled) ↔ insertion.IsStorable
  rows : ∀ compiled, bound = .ok compiled → compiled.params = [] ∧
    List.Forall₂ (StoredAs insertion.targets) insertion.rows compiled.rows ∧
    literal = .ok ⟨writtenBehind compiled.sql percentsDoubled compiled.rows, [], []⟩
  sameError : ∀ error, bound = .error error → literal = .error error
  firstFault : (∀ name ∈ insertion.columns, insertion.table.hasColumn name = true) →
    insertion.targets ≠ [] → ∀ error, bound = .error error →
      ∃ place row fault, error = .value fault ∧ insertion.rows[place]? = some row ∧
        (∀ earlier ∈ insertion.rows.take place, RowFits insertion.targets earlier) ∧
        RowFault insertion.targets place row fault

/-- Both ways of sending rows agree where the rows are stored. -/
theorem sendsRows_of_stored {insertion : Insert} {percentsDoubled : Bool} {sql : String}
    {rows : List (List Value)} (storable : insertion.IsStorable)
    (converted : List.Forall₂ (StoredAs insertion.targets) insertion.rows rows) :
    SendsRows insertion percentsDoubled (.ok ⟨sql, [], rows⟩)
      (.ok ⟨writtenBehind sql percentsDoubled rows, [], []⟩) where
  bound_iff := by simp [storable]
  literal_iff := by simp [storable]
  rows := by
    rintro _ ⟨⟩
    exact ⟨rfl, converted, rfl⟩
  sameError := by simp
  firstFault := by simp

/-- Both ways of sending rows agree where they stop at the same error. -/
theorem sendsRows_of_error {insertion : Insert} {percentsDoubled : Bool} {error : Error}
    (notStorable : ¬ insertion.IsStorable)
    (firstFault : (∀ name ∈ insertion.columns, insertion.table.hasColumn name = true) →
      insertion.targets ≠ [] → ∃ place row fault, error = .value fault ∧
        insertion.rows[place]? = some row ∧
        (∀ earlier ∈ insertion.rows.take place, RowFits insertion.targets earlier) ∧
        RowFault insertion.targets place row fault) :
    SendsRows insertion percentsDoubled (.error error) (.error error) where
  bound_iff := by simp [notStorable]
  literal_iff := by simp [notStorable]
  rows := by simp
  sameError _ same := same
  firstFault := by
    rintro known nonempty _ ⟨⟩
    exact firstFault known nonempty

/-- An insertion sends exactly its converted rows in both modes, or nothing. -/
theorem compile_sends_rows (capabilities : Capabilities) (style : ParameterStyle)
    (insertion : Insert) :
    SendsRows insertion style.percentsDoubled
      (Statement.compile capabilities ⟨false, style⟩ (.insert insertion))
      (Statement.compile capabilities ⟨true, style⟩ (.insert insertion)) := by
  simp only [Statement.compile]
  by_cases found : (∀ name ∈ insertion.columns, insertion.table.hasColumn name = true) ∧
      insertion.targets ≠ []
  · obtain ⟨known, nonempty⟩ := found
    rcases storeRows_cases insertion.targets 0 insertion.rows with
      ⟨stored, done, converted⟩ | ⟨fault, place, row, stopped, isRow, before, wrong⟩
    · obtain ⟨bound, literal⟩ := compile_of_stored known nonempty done style
      rw [bound, literal, ← writtenBehind_eq]
      exact sendsRows_of_stored ⟨known, nonempty, fits_of_stored converted⟩ converted
    · rw [compile_of_fault known nonempty stopped, compile_of_fault known nonempty stopped]
      rw [Nat.zero_add] at wrong
      apply sendsRows_of_error
      · intro storable
        exact wrong.not_fits (storable.fits row (List.mem_of_getElem? isRow))
      · intro _ _
        exact ⟨place, row, fault, rfl, isRow, before, wrong⟩
  · obtain ⟨error, refused⟩ := compile_of_unknown found
    rw [refused, refused]
    apply sendsRows_of_error
    · intro storable
      exact found ⟨storable.known, storable.nonempty⟩
    · intro known nonempty
      exact absurd ⟨known, nonempty⟩ found

end ColumnarSql.Insert
