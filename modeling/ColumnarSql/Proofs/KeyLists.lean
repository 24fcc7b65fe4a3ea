/-
Module: ColumnarSql.Proofs.KeyLists
Purpose: Which lists of keys are taken for lists.  The search for the closing
  parenthesis of a list counts parentheses inside quotes like any others, so a
  list is recognized exactly if that count comes out right.
Main exports:
  StaysOpen, closesAtEnd_iff_staysOpen, IsKeyItem, keyListText,
  Key.ofReport_keyListText_iff
-/
import ColumnarSql.Proofs.ReportedKeys

namespace ColumnarSql

open Text

/-! ### Counting all parentheses -/

/-- No start of a text closes more parentheses than it opens, apart from
`depth` ones that were open before.  Parentheses in quotes count too. -/
def StaysOpen (depth : Nat) (s : List Char) : Prop :=
  ∀ start, start <+: s → start.count ')' ≤ start.count '(' + depth

namespace StaysOpen

theorem nil (depth : Nat) : StaysOpen depth [] := by
  intro start isStart
  rw [List.prefix_nil.mp isStart]
  exact Nat.zero_le _

/-- The starts of a longer text are the empty one and those with its first
character. -/
theorem cons_iff {depth : Nat} {c : Char} {s : List Char} :
    StaysOpen depth (c :: s) ↔
      ∀ start, start <+: s → (c :: start).count ')' ≤ (c :: start).count '(' + depth := by
  constructor
  · intro stays start isStart
    exact stays (c :: start) (List.cons_prefix_cons.mpr ⟨rfl, isStart⟩)
  · intro stays start isStart
    rcases List.prefix_cons_iff.mp isStart with rfl | ⟨rest, rfl, isRest⟩
    · exact Nat.zero_le _
    · exact stays rest isRest

/-- An opening parenthesis lets one more be closed behind it. -/
theorem opening_iff {depth : Nat} {s : List Char} :
    StaysOpen depth ('(' :: s) ↔ StaysOpen (depth + 1) s := by
  rw [cons_iff]
  apply forall₂_congr
  intro start _
  rw [List.count_cons_of_ne (by decide), List.count_cons_self]
  omega

/-- A closing parenthesis needs an open one. -/
theorem closing_iff {depth : Nat} {s : List Char} :
    StaysOpen depth (')' :: s) ↔ depth ≠ 0 ∧ StaysOpen (depth - 1) s := by
  rw [cons_iff]
  simp only [List.count_cons_self, ne_eq, (by decide : ')' ≠ '('), not_false_eq_true,
    List.count_cons_of_ne]
  constructor
  · intro stays
    have first := stays [] List.nil_prefix
    rw [List.count_nil, List.count_nil] at first
    refine ⟨by omega, ?_⟩
    intro start isStart
    have later := stays start isStart
    omega
  · rintro ⟨positive, stays⟩ start isStart
    have later := stays start isStart
    omega

theorem other_iff {depth : Nat} {c : Char} {s : List Char} (noOpening : c ≠ '(')
    (noClosing : c ≠ ')') : StaysOpen depth (c :: s) ↔ StaysOpen depth s := by
  rw [cons_iff]
  apply forall₂_congr
  intro start _
  rw [List.count_cons_of_ne noClosing, List.count_cons_of_ne noOpening]

end StaysOpen

/-- A parenthesis closes only at the end of a text if what stands before leaves
it open. -/
theorem closesAtEnd_iff_staysOpen {depth : Nat} {s : List Char} :
    closesAtEnd (depth + 1) (s ++ [')']) = true ↔ StaysOpen depth s := by
  induction s generalizing depth with
  | nil => simpa [closesAtEnd] using StaysOpen.nil depth
  | cons c s inductionHypothesis =>
      by_cases opening : c = '('
      · subst opening
        rw [List.cons_append, closesAtEnd, inductionHypothesis, StaysOpen.opening_iff]
      by_cases closing : c = ')'
      · subst closing
        rw [List.cons_append, closesAtEnd, StaysOpen.closing_iff, Nat.add_sub_cancel]
        cases depth with
        | zero => simp
        | succ depth => simpa using inductionHypothesis
      · rw [List.cons_append, closesAtEnd_other opening closing, inductionHypothesis,
          StaysOpen.other_iff opening closing]

instance (depth : Nat) (s : List Char) : Decidable (StaysOpen depth s) :=
  decidable_of_iff _ closesAtEnd_iff_staysOpen

/-- The outer parentheses belong together exactly if none within closes the
first one. -/
theorem isEnclosed_iff_staysOpen {s : List Char} :
    isEnclosed ('(' :: (s ++ [')'])) = true ↔ StaysOpen 0 s := by
  have last : ('(' :: (s ++ [')'])).getLast? = some ')' := by
    rw [← List.cons_append, List.getLast?_concat]
  rw [isEnclosed, last, closesAtEnd]
  simpa using closesAtEnd_iff_staysOpen

/-! ### Lists of keys -/

/-- The items of a list of keys: trimmed texts that close their brackets and
quotes and have no comma outside of them. -/
structure IsKeyItem (s : List Char) : Prop where
  nonempty : s ≠ []
  trimmed : trim s = s
  nested : Nested (· ≠ ',') 0 s

/-- Items with commas between them, in parentheses. -/
def keyListText (items : List (List Char)) : List Char :=
  '(' :: (List.intercalate ", ".toList items ++ [')'])

/-- A list of items comes apart at its commas into the items. -/
theorem splitOutside_keyItems {items : List (List Char)} (areItems : ∀ s ∈ items, IsKeyItem s) :
    splitOutside ',' (List.intercalate ", ".toList items) = items :=
  splitOutside_joined isBlank_space (fun s member => (areItems s member).nested)
    fun s member => ⟨(areItems s member).nonempty, (areItems s member).trimmed⟩

/-- What starts with a parenthesis is no name. -/
theorem Expr.ofReport_parenthesis (table : Table) (s : List Char) :
    Expr.ofReport table ('(' :: s) = .raw (String.ofList ('(' :: s)) := by
  have noBacktick : unquoted? '\x60' ('(' :: s) = none := unquoted?_of_head (by decide) s
  have noQuote : unquoted? '"' ('(' :: s) = none := unquoted?_of_head (by decide) s
  have bare : withoutQuotes ('(' :: s) = '(' :: s := by simp [withoutQuotes, noBacktick, noQuote]
  have noName : isPlainName ('(' :: s) = false := isPlainName_of_call (by simp)
  simp [Expr.ofReport, bare, noName]

/-- A list of at least two keys is cut into its items exactly if the count of all
its parentheses, quoted ones included, never falls below zero; otherwise the
whole list is one raw key. -/
theorem Key.ofReport_keyListText_iff (table : Table) {items : List (List Char)}
    (several : 2 ≤ items.length) (areItems : ∀ s ∈ items, IsKeyItem s) :
    (Key.ofReport table (keyListText items) = items.map (Expr.ofReport table) ↔
      StaysOpen 0 (List.intercalate ", ".toList items)) ∧
    (¬ StaysOpen 0 (List.intercalate ", ".toList items) →
      Key.ofReport table (keyListText items) = [.raw (String.ofList (keyListText items))]) := by
  have collapses : ¬ StaysOpen 0 (List.intercalate ", ".toList items) →
      Key.ofReport table (keyListText items) = [.raw (String.ofList (keyListText items))] := by
    intro closed
    rw [← isEnclosed_iff_staysOpen, Bool.not_eq_true] at closed
    rw [Key.ofReport, keyListText, closed, ← Expr.ofReport_parenthesis table]
    rfl
  refine ⟨⟨?_, ?_⟩, collapses⟩
  · intro cut
    by_contra closed
    have lengths := congrArg List.length (cut.symm.trans (collapses closed))
    rw [List.length_map, List.length_singleton] at lengths
    omega
  · intro stays
    rw [keyListText, Key.ofReport_enclosed table (isEnclosed_iff_staysOpen.mpr stays),
      splitOutside_keyItems areItems]

/-- A call with a comma and parentheses in a quoted argument, and a quoted
column. -/
def pairedItems : List (List Char) :=
  ["f('a (b), c')".toList, "\"d, e\"".toList]

/-- Parentheses that come in pairs do no harm, even in quotes: both items are
read. -/
theorem Key.ofReport_keyListText_paired :
    keyListText pairedItems = "(f('a (b), c'), \"d, e\")".toList ∧
      Key.ofReport ⟨"t", [⟨"d, e", .scalar .date, none, none⟩], none⟩ (keyListText pairedItems) =
        [.raw "f('a (b), c')", .column (some "t") "d, e"] := by
  have name : ∀ c ∈ ['f'], isWordChar c = true := forall_mem_of_all (by decide)
  have argument : Balanced "'a (b), c'".toList := by decide
  have inner : QuotedPart '"' "d, e".toList := quotedPart_of_not_mem (by decide) (by decide)
  have call : Nested (· ≠ ',') 0 "f('a (b), c')".toList :=
    (Compact.of_word name).noComma.concat (Nested.bracketed argument)
  have column : Nested (· ≠ ',') 0 "\"d, e\"".toList := Nested.quotation rfl inner
  have areItems : ∀ s ∈ pairedItems, IsKeyItem s := by
    simp only [pairedItems, List.forall_mem_cons]
    exact ⟨⟨by decide, by decide, call⟩, ⟨by decide, by decide, column⟩, by simp⟩
  exact ⟨rfl, (Key.ofReport_keyListText_iff _ (by decide) areItems).1.mpr (by decide)⟩

/-- A call with a closing parenthesis as a string, and a column. -/
def closingItems : List (List Char) :=
  ["f(')')".toList, "x".toList]

/-- The quoted parenthesis is taken for the end of the list. -/
theorem Key.ofReport_keyListText_closing :
    (∀ s ∈ closingItems, IsKeyItem s) ∧
      keyListText closingItems = "(f(')'), x)".toList ∧
      Key.ofReport ⟨"t", [⟨"x", .scalar .date, none, none⟩], none⟩ (keyListText closingItems) ≠
        closingItems.map (Expr.ofReport ⟨"t", [⟨"x", .scalar .date, none, none⟩], none⟩) := by
  have name : ∀ c ∈ ['f'], isWordChar c = true := forall_mem_of_all (by decide)
  have argument : Balanced "')'".toList := by decide
  have call : Nested (· ≠ ',') 0 "f(')')".toList :=
    (Compact.of_word name).noComma.concat (Nested.bracketed argument)
  have column : Nested (· ≠ ',') 0 "x".toList :=
    (Compact.of_word (forall_mem_of_all (by decide))).noComma
  refine ⟨?_, rfl, ?_⟩
  · simp only [closingItems, List.forall_mem_cons]
    exact ⟨⟨by decide, by decide, call⟩, ⟨by decide, by decide, column⟩, by simp⟩
  · intro cut
    have lengths := congrArg List.length cut
    revert lengths
    decide

end ColumnarSql
