/-
Module: ColumnarSql.Proofs.ReportedKeys
Purpose: The arguments and keys of an engine read back from their texts.
Main exports:
  IsColumnName, bracketsMatch, Table.HasColumnNames, Expr.ofReport_identifierText,
  IsItem, IsItem.entry, IsItem.ofReport, Key.text, Key.ofReport_text,
  Key.isBody_text, ReportedName.ofReport_identifierText_iff
-/
import ColumnarSql.Proofs.ClauseEntries
import ColumnarSql.Proofs.OperatorGrouping
import ColumnarSql.Proofs.TypeReading
import ColumnarSql.Table.Reflection

namespace ColumnarSql

open Text

/-! ### Columns -/

/-- Names of columns: word characters and periods.  Two words are excluded
because they are keywords by themselves. -/
structure IsColumnName (name : String) : Prop where
  nonempty : name ≠ ""
  chars : ∀ c ∈ name.toList, isWordChar c = true ∨ c = '.'
  notTtl : name ≠ "TTL"
  notSettings : name ≠ "SETTINGS"

namespace IsColumnName

variable {name : String}

/-- The name of a column holds no mark but the period. -/
theorem ne_mark (isColumn : IsColumnName name) {mark : Char} (noWord : isWordChar mark = false)
    (noPeriod : mark ≠ '.') : mark ∉ name.toList := by
  intro member
  rcases isColumn.chars mark member with inWord | isPeriod
  · rw [noWord] at inWord
    cases inWord
  · exact noPeriod isPeriod

/-- A name without double quotes and backslashes is not escaped. -/
theorem escapeIdentifier_eq {s : List Char} (noQuote : '"' ∉ s) (noBackslash : '\\' ∉ s) :
    escapeIdentifier s = s := by
  induction s with
  | nil => rfl
  | cons c s inductionHypothesis =>
      rw [List.mem_cons, not_or] at noQuote noBackslash
      simp [escapeIdentifier, Ne.symm noQuote.1, Ne.symm noBackslash.1,
        inductionHypothesis noQuote.2 noBackslash.2]

/-- A column is written as its name, bare or in double quotes. -/
theorem identifierText_cases (isColumn : IsColumnName name) :
    (isPlainName name.toList = true ∧ (identifierText name).toList = name.toList) ∨
      (identifierText name).toList = '"' :: (name.toList ++ ['"']) := by
  by_cases plain : isPlainName name.toList = true
  · exact .inl ⟨plain, Grouping.identifierText_of_plain plain⟩
  · right
    rw [Grouping.identifierText_of_quoted plain, escapeIdentifier_eq]
    · exact isColumn.ne_mark rfl (by decide)
    · exact isColumn.ne_mark rfl (by decide)

/-- The name of a column may stand between double quotes. -/
theorem quotedPart (isColumn : IsColumnName name) : QuotedPart '"' name.toList :=
  quotedPart_of_not_mem (isColumn.ne_mark rfl (by decide)) (isColumn.ne_mark rfl (by decide))

/-- A column is no keyword, whatever may follow. -/
theorem at?_eq_none (isColumn : IsColumnName name) {rest : List Char}
    (follows : EngineClause.Follows rest) :
    EngineClause.at? ((identifierText name).toList ++ rest) = none := by
  rcases isColumn.identifierText_cases with ⟨plain, same⟩ | same
  · have inWord := Grouping.isWordChar_of_isPlainName plain
    have different : ∀ keyword : String, name ≠ keyword → name.toList ≠ keyword.toList :=
      fun keyword different same => different (String.toList_injective same)
    rw [same]
    apply EngineClause.at?_word_follows inWord _ follows
    exact EngineClause.at?_word inWord (different "TTL" isColumn.notTtl)
      (different "SETTINGS" isColumn.notSettings)
  · rw [same]
    exact EngineClause.at?_of_not_word rfl _

/-- The name of a column is written without blanks and commas. -/
theorem compact (isColumn : IsColumnName name) : Compact (identifierText name).toList := by
  rcases isColumn.identifierText_cases with ⟨plain, same⟩ | same
  · rw [same]
    exact .of_word (Grouping.isWordChar_of_isPlainName plain)
  · rw [same]
    exact Nested.quotation rfl isColumn.quotedPart

end IsColumnName

/-! ### Brackets of calls -/

/-- Whether every closing bracket has an earlier open one of its kind, and none
stays open; `round` and `square` brackets are open before. -/
def bracketsMatch (round square : Nat) : List Char → Bool
  | [] => round == 0 && square == 0
  | c :: rest =>
      if c == '(' then bracketsMatch (round + 1) square rest
      else if c == ')' then round != 0 && bracketsMatch (round - 1) square rest
      else if c == '[' then bracketsMatch round (square + 1) rest
      else if c == ']' then square != 0 && bracketsMatch round (square - 1) rest
      else bracketsMatch round square rest

/-- The texts that `bracketsMatch` accepts, one case for each kind of
character. -/
inductive Matched : Nat → Nat → List Char → Prop where
  | nil : Matched 0 0 []
  | roundOpened {round square : Nat} {s : List Char} : Matched (round + 1) square s →
      Matched round square ('(' :: s)
  | roundClosed {round square : Nat} {s : List Char} : Matched round square s →
      Matched (round + 1) square (')' :: s)
  | squareOpened {round square : Nat} {s : List Char} : Matched round (square + 1) s →
      Matched round square ('[' :: s)
  | squareClosed {round square : Nat} {s : List Char} : Matched round square s →
      Matched round (square + 1) (']' :: s)
  | other {round square : Nat} {c : Char} {s : List Char} : c ≠ '(' → c ≠ ')' → c ≠ '[' →
      c ≠ ']' → Matched round square s → Matched round square (c :: s)

/-- What the test of brackets accepts is matched. -/
theorem matched_of_bracketsMatch {round square : Nat} {s : List Char}
    (accepted : bracketsMatch round square s = true) : Matched round square s := by
  induction s generalizing round square with
  | nil =>
      simp only [bracketsMatch, Bool.and_eq_true, beq_iff_eq] at accepted
      obtain ⟨rfl, rfl⟩ := accepted
      exact .nil
  | cons c s inductionHypothesis =>
      simp only [bracketsMatch, beq_iff_eq] at accepted
      split_ifs at accepted with roundOpened roundClosed squareOpened squareClosed
      · subst c
        exact .roundOpened (inductionHypothesis accepted)
      · subst c
        simp only [Bool.and_eq_true, bne_iff_ne] at accepted
        obtain ⟨outer, rfl⟩ := Nat.exists_eq_succ_of_ne_zero accepted.1
        exact .roundClosed (inductionHypothesis accepted.2)
      · subst c
        exact .squareOpened (inductionHypothesis accepted)
      · subst c
        simp only [Bool.and_eq_true, bne_iff_ne] at accepted
        obtain ⟨outer, rfl⟩ := Nat.exists_eq_succ_of_ne_zero accepted.1
        exact .squareClosed (inductionHypothesis accepted.2)
      · exact .other roundOpened roundClosed squareOpened squareClosed
          (inductionHypothesis accepted)

/-- Matched brackets without quotes are nested; the two kinds are counted
together. -/
theorem Matched.nested {round square : Nat} {s : List Char} (matched : Matched round square s)
    (unquoted : ∀ c ∈ s, Nesting.isQuote c = false) :
    Nested (fun _ => True) (round + square) s := by
  induction matched with
  | nil => exact .nil
  | roundOpened _ inductionHypothesis =>
      apply Nested.opened rfl
      rw [Nat.add_right_comm]
      exact inductionHypothesis fun d member => unquoted d (List.mem_cons_of_mem _ member)
  | roundClosed _ inductionHypothesis =>
      rw [Nat.add_right_comm]
      apply Nested.closed rfl
      exact inductionHypothesis fun d member => unquoted d (List.mem_cons_of_mem _ member)
  | squareOpened _ inductionHypothesis =>
      apply Nested.opened rfl
      exact inductionHypothesis fun d member => unquoted d (List.mem_cons_of_mem _ member)
  | squareClosed _ inductionHypothesis =>
      apply Nested.closed rfl
      exact inductionHypothesis fun d member => unquoted d (List.mem_cons_of_mem _ member)
  | other noRound noRound' noSquare noSquare' _ inductionHypothesis =>
      refine .plain (unquoted _ (by simp)) ?_ ?_ (fun _ => trivial) ?_
      · simp [isOpening, noRound, noSquare]
      · simp [isClosing, noRound', noSquare']
      · exact inductionHypothesis fun d member => unquoted d (List.mem_cons_of_mem _ member)

theorem closesAtEnd_other {c : Char} (noOpening : c ≠ '(') (noClosing : c ≠ ')') (depth : Nat)
    (rest : List Char) : closesAtEnd depth (c :: rest) = closesAtEnd depth rest := by
  rw [closesAtEnd]
  · exact noOpening
  · exact noClosing

/-- A text without parentheses leaves the count as it is. -/
theorem closesAtEnd_word {s : List Char} (noOpening : '(' ∉ s) (noClosing : ')' ∉ s) (depth : Nat)
    (rest : List Char) : closesAtEnd depth (s ++ rest) = closesAtEnd depth rest := by
  induction s with
  | nil => rfl
  | cons c s inductionHypothesis =>
      rw [List.mem_cons, not_or] at noOpening noClosing
      rw [List.cons_append, closesAtEnd_other (Ne.symm noOpening.1) (Ne.symm noClosing.1)]
      exact inductionHypothesis noOpening.2 noClosing.2

/-- Inside a parenthesis matched brackets do not close it. -/
theorem Matched.closesAtEnd {round square : Nat} {s : List Char} (matched : Matched round square s)
    (depth : Nat) (rest : List Char) :
    closesAtEnd (round + (depth + 1)) (s ++ rest) = closesAtEnd (depth + 1) rest := by
  induction matched with
  | nil => rw [Nat.zero_add, List.nil_append]
  | roundOpened _ inductionHypothesis =>
      rw [List.cons_append, ColumnarSql.closesAtEnd, ← inductionHypothesis, Nat.add_right_comm]
  | @roundClosed round square s _ inductionHypothesis =>
      have stillOpen : round + 1 + (depth + 1) - 1 = round + (depth + 1) := by omega
      rw [List.cons_append, ColumnarSql.closesAtEnd, stillOpen]
      simpa using inductionHypothesis
  | squareOpened _ inductionHypothesis =>
      rw [List.cons_append, closesAtEnd_other (by decide) (by decide)]
      exact inductionHypothesis
  | squareClosed _ inductionHypothesis =>
      rw [List.cons_append, closesAtEnd_other (by decide) (by decide)]
      exact inductionHypothesis
  | other noRound noRound' _ _ _ inductionHypothesis =>
      rw [List.cons_append, closesAtEnd_other noRound noRound']
      exact inductionHypothesis

/-! ### Arguments and key expressions -/

/-- All columns of a table have names that read back. -/
def Table.HasColumnNames (table : Table) : Prop :=
  ∀ column ∈ table.columns, IsColumnName column.name

/-- A column that the table has is named like one. -/
theorem Table.HasColumnNames.isColumnName {table : Table} (columns : table.HasColumnNames)
    {name : String} (isThere : table.hasColumn name = true) : IsColumnName name := by
  obtain ⟨column, found⟩ := Option.isSome_iff_exists.mp isThere
  have sameName := List.find?_some found
  rw [← eq_of_beq sameName]
  exact columns column (List.mem_of_find?_eq_some found)

/-- The expressions that read back: columns of the table, and calls as raw text
with matched brackets and without quotes. -/
inductive IsItem (table : Table) : Expr → Prop where
  | column (qualifier : Option String) {name : String} : table.hasColumn name = true →
      IsItem table (.column qualifier name)
  | call {function inner : String} : isWord function.toList = true →
      bracketsMatch 0 0 inner.toList = true →
      (∀ c ∈ inner.toList, Nesting.isQuote c = false) →
        IsItem table (.raw (function ++ "(" ++ inner ++ ")"))

/-- The text of an item. -/
def Expr.itemText : Expr → String
  | .column _ name => identifierText name
  | .raw text => text
  | _ => ""

/-- An expression whose column belongs to a table. -/
def Expr.qualifiedBy (table : Table) : Expr → Expr
  | .column _ name => .column (some table.name) name
  | e => e

theorem unquoted?_of_head {quote c : Char} (different : c ≠ quote) (s : List Char) :
    unquoted? quote (c :: s) = none := by
  simp [unquoted?, dropStart?, Ne.symm different]

/-- A text that starts a word has no quotes to take off. -/
theorem withoutQuotes_of_word {c : Char} (inWord : isWordChar c = true) (s : List Char) :
    withoutQuotes (c :: s) = c :: s := by
  have noMark : ∀ mark : Char, isWordChar mark = false → c ≠ mark := by
    rintro mark noWord rfl
    rw [noWord] at inWord
    cases inWord
  simp [withoutQuotes, unquoted?_of_head (noMark '\x60' rfl) s,
    unquoted?_of_head (noMark '"' rfl) s]

/-- Double quotes at both ends are taken off. -/
theorem withoutQuotes_quoted (s : List Char) : withoutQuotes ('"' :: (s ++ ['"'])) = s := by
  have inner : unquoted? '"' ('"' :: (s ++ ['"'])) = some s := by
    simp [unquoted?, dropStart?, dropEnd?]
  have noBacktick : unquoted? '\x60' ('"' :: (s ++ ['"'])) = none :=
    unquoted?_of_head (by decide) _
  simp [withoutQuotes, noBacktick, inner]

/-- Quotes are taken off an identifier, but not the backslashes in it. -/
theorem withoutQuotes_identifierText (name : String) :
    withoutQuotes (identifierText name).toList = escapeIdentifier name.toList := by
  by_cases plain : isPlainName name.toList = true
  · have inWord := Grouping.isWordChar_of_isPlainName plain
    have noMark : ∀ mark : Char, isWordChar mark = false → mark ∉ name.toList := by
      intro mark noWord member
      rw [inWord mark member] at noWord
      cases noWord
    rw [Grouping.identifierText_of_plain plain,
      IsColumnName.escapeIdentifier_eq (noMark '"' rfl) (noMark '\\' rfl)]
    cases spelled : name.toList with
    | nil => rfl
    | cons c s => exact withoutQuotes_of_word (inWord c (by simp [spelled])) s
  · rw [Grouping.identifierText_of_quoted plain]
    exact withoutQuotes_quoted _

/-- An identifier is taken for a name: it is plain, or it loses its quotes. -/
theorem isName_identifierText (name : String) :
    ((escapeIdentifier name.toList).length != (identifierText name).toList.length ||
      isPlainName (identifierText name).toList) = true := by
  by_cases plain : isPlainName name.toList = true
  · rw [Grouping.identifierText_of_plain plain, plain, Bool.or_true]
  · have shorter : (escapeIdentifier name.toList).length ≠ (identifierText name).toList.length := by
      rw [Grouping.identifierText_of_quoted plain, List.length_cons, List.length_append]
      omega
    rw [bne_iff_ne.mpr shorter, Bool.true_or]

/-- In the identifier of a name the name with its backslashes is looked for. -/
theorem Expr.ofReport_identifierText (table : Table) (name : String) :
    Expr.ofReport table (identifierText name).toList =
      if table.hasColumn (String.ofList (escapeIdentifier name.toList)) then
        table.reference (String.ofList (escapeIdentifier name.toList))
      else
        .raw (identifierText name) := by
  simp only [Expr.ofReport, withoutQuotes_identifierText, isName_identifierText, Bool.true_and,
    String.ofList_toList]

/-- The text of a column is read as that column of the table. -/
theorem Expr.ofReport_column {table : Table} (columns : table.HasColumnNames) {name : String}
    (isThere : table.hasColumn name = true) :
    Expr.ofReport table (identifierText name).toList = .column (some table.name) name := by
  have isColumn := columns.isColumnName isThere
  rw [Expr.ofReport_identifierText, IsColumnName.escapeIdentifier_eq (isColumn.ne_mark rfl (by decide))
    (isColumn.ne_mark rfl (by decide)), String.ofList_toList, if_pos isThere]
  rfl

/-- A text with a parenthesis is no plain name. -/
theorem isPlainName_of_call {s : List Char} (parenthesis : '(' ∈ s) : isPlainName s = false := by
  by_contra plain
  have inWord := Grouping.isWordChar_of_isPlainName (by simpa using plain) '(' parenthesis
  cases inWord

namespace IsItem

variable {table : Table} {e : Expr}

/-- An item is written as its text in a declaration. -/
theorem sql_eq (item : IsItem table e) :
    e.sql Engine.declarationSpelling = .text e.itemText := by
  cases item with
  | @column qualifier name isThere => cases qualifier <;> rfl
  | call isName matched unquoted => rfl

/-- A call is a word, and what follows in parentheses. -/
theorem call_cons {function : String} (isName : isWord function.toList = true) (inner : String) :
    ∃ c tail, (function ++ "(" ++ inner ++ ")").toList = c :: tail ∧ isWordChar c = true := by
  obtain ⟨c, tail, spelled, _⟩ := TypeGrammar.solid_of_isWord isName
  refine ⟨c, tail ++ '(' :: (inner.toList ++ [')']), by simp [spelled], ?_⟩
  exact TypeGrammar.mem_of_isWord isName c (by simp [spelled])

/-- The text of an item has no blank and no comma outside brackets and quotes.
-/
theorem compact (columns : table.HasColumnNames) (item : IsItem table e) :
    Compact e.itemText.toList := by
  cases item with
  | column qualifier isThere => exact (columns.isColumnName isThere).compact
  | @call function inner isName matched unquoted =>
      have inside : Balanced inner.toList := (matched_of_bracketsMatch matched).nested unquoted
      have split : (function ++ "(" ++ inner ++ ")").toList =
          function.toList ++ '(' :: (inner.toList ++ [')']) := by simp
      rw [Expr.itemText, split]
      exact (Compact.of_word (TypeGrammar.mem_of_isWord isName)).append (Nested.bracketed inside)

/-- An item is read back from its text, with the table as its qualifier. -/
theorem ofReport (columns : table.HasColumnNames) (item : IsItem table e) :
    Expr.ofReport table e.itemText.toList = e.qualifiedBy table := by
  cases item with
  | column qualifier isThere => exact Expr.ofReport_column columns isThere
  | @call function inner isName matched unquoted =>
      obtain ⟨c, tail, spelled, inWord⟩ := call_cons isName inner
      have noName : isPlainName (function ++ "(" ++ inner ++ ")").toList = false :=
        isPlainName_of_call (by simp)
      have bare : withoutQuotes (function ++ "(" ++ inner ++ ")").toList =
          (function ++ "(" ++ inner ++ ")").toList := by
        rw [spelled]
        exact withoutQuotes_of_word inWord tail
      simp only [Expr.itemText, Expr.ofReport, bare, noName, bne_self_eq_false, Bool.or_self,
        Bool.false_and, Bool.false_eq_true, if_false, String.ofList_toList, Expr.qualifiedBy]

/-- No item starts with a parenthesis. -/
theorem head_ne (columns : table.HasColumnNames) (item : IsItem table e) :
    ∃ c tail, e.itemText.toList = c :: tail ∧ c ≠ '(' := by
  have noParenthesis : ∀ c, isWordChar c = true → c ≠ '(' := by
    rintro c inWord rfl
    cases inWord
  cases item with
  | @column qualifier name isThere =>
      rcases (columns.isColumnName isThere).identifierText_cases with ⟨plain, same⟩ | same
      · cases spelled : name.toList with
        | nil =>
            rw [spelled] at plain
            cases plain
        | cons c tail =>
            refine ⟨c, tail, same.trans spelled, noParenthesis c ?_⟩
            exact Grouping.isWordChar_of_isPlainName plain c (by simp [spelled])
      · exact ⟨'"', _, same, by decide⟩
  | @call function inner isName matched unquoted =>
      obtain ⟨c, tail, spelled, inWord⟩ := call_cons isName inner
      exact ⟨c, tail, spelled, noParenthesis c inWord⟩

/-- The text of an item is an entry of a clause. -/
theorem entry (columns : table.HasColumnNames) (item : IsItem table e) :
    IsEntry e.itemText.toList := by
  obtain ⟨c, tail, spelled, _⟩ := item.head_ne columns
  apply IsEntry.of_compact (item.compact columns) (by simp [spelled])
  intro rest comma
  cases item with
  | column qualifier isThere =>
      exact (columns.isColumnName isThere).at?_eq_none (EngineClause.follows_of_comma comma)
  | @call function inner isName matched unquoted =>
      have split : (function ++ "(" ++ inner ++ ")").toList ++ rest =
          function.toList ++ '(' :: (inner.toList ++ ')' :: rest) := by simp
      rw [Expr.itemText, split]
      exact EngineClause.at?_word_mark (TypeGrammar.mem_of_isWord isName) rfl rfl _

/-- An item closes all parentheses that it opens. -/
theorem closesAtEnd (columns : table.HasColumnNames) (item : IsItem table e) (depth : Nat)
    (rest : List Char) :
    ColumnarSql.closesAtEnd (depth + 1) (e.itemText.toList ++ rest) =
      ColumnarSql.closesAtEnd (depth + 1) rest := by
  have noMark : ∀ {s : List Char}, (∀ c ∈ s, isWordChar c = true) → ∀ mark : Char,
      isWordChar mark = false → mark ∉ s := by
    intro s inWord mark noWord member
    rw [inWord mark member] at noWord
    cases noWord
  cases item with
  | @column qualifier name isThere =>
      have isColumn := columns.isColumnName isThere
      have noOpening : '(' ∉ name.toList := isColumn.ne_mark rfl (by decide)
      have noClosing : ')' ∉ name.toList := isColumn.ne_mark rfl (by decide)
      rw [Expr.itemText]
      rcases isColumn.identifierText_cases with ⟨plain, same⟩ | same
      · rw [same, closesAtEnd_word noOpening noClosing]
      · rw [same, closesAtEnd_word (by simp [noOpening]) (by simp [noClosing])]
  | @call function inner isName matched unquoted =>
      have inWord := TypeGrammar.mem_of_isWord isName
      have split : (function ++ "(" ++ inner ++ ")").toList ++ rest =
          function.toList ++ '(' :: (inner.toList ++ ')' :: rest) := by simp
      have inside := (matched_of_bracketsMatch matched).closesAtEnd (depth + 1) (')' :: rest)
      rw [Nat.zero_add] at inside
      rw [Expr.itemText, split, closesAtEnd_word (noMark inWord '(' rfl) (noMark inWord ')' rfl),
        ColumnarSql.closesAtEnd, inside, ColumnarSql.closesAtEnd]
      simp

end IsItem

/-! ### Keys -/

/-- The text of items, with commas between them. -/
def itemsText (items : List Expr) : List Char :=
  List.intercalate [',', ' '] (items.map (·.itemText.toList))

/-- The text of a key: one expression stands bare, others in parentheses. -/
def Key.text (key : Key) : List Char :=
  match key with
  | [e] => e.itemText.toList
  | key => '(' :: (itemsText key ++ [')'])

/-- A key in one pair of parentheses is a list. -/
theorem Key.ofReport_enclosed (table : Table) {s : List Char}
    (enclosed : isEnclosed ('(' :: (s ++ [')'])) = true) :
    Key.ofReport table ('(' :: (s ++ [')'])) = (splitOutside ',' s).map (Expr.ofReport table) := by
  rw [Key.ofReport, enclosed]
  simp only [if_true, List.drop_one, List.tail_cons, List.dropLast_concat]

section Items

variable {table : Table} (columns : table.HasColumnNames) {items : List Expr}
  (areItems : ∀ e ∈ items, IsItem table e)

include columns areItems

/-- Items with commas between them close all parentheses that they open. -/
theorem closesAtEnd_itemsText (rest : List Char) :
    closesAtEnd 1 (itemsText items ++ rest) = closesAtEnd 1 rest := by
  induction items with
  | nil => rfl
  | cons e items inductionHypothesis =>
      have first := (areItems e (by simp)).closesAtEnd columns 0
      have later := inductionHypothesis fun e member => areItems e (List.mem_cons_of_mem _ member)
      cases items with
      | nil =>
          rw [itemsText, List.map_singleton, List.intercalate_singleton]
          exact first rest
      | cons next items =>
          rw [itemsText, List.map_cons, List.map_cons, List.intercalate_cons_cons,
            List.append_assoc, List.append_assoc]
          refine (first _).trans ?_
          rw [List.cons_append, closesAtEnd_other (by decide) (by decide), List.cons_append,
            closesAtEnd_other (by decide) (by decide)]
          exact later

/-- Items are cut apart again. -/
theorem splitOutside_itemsText :
    splitOutside ',' (itemsText items) = items.map (·.itemText.toList) := by
  apply splitOutside_entries isBlank_space
  intro s member
  obtain ⟨e, given, rfl⟩ := List.mem_map.mp member
  exact (areItems e given).entry columns

/-- Each item is read back from its text. -/
theorem map_ofReport_items :
    (items.map (·.itemText.toList)).map (Expr.ofReport table) =
      items.map (Expr.qualifiedBy table) := by
  rw [List.map_map]
  apply List.map_congr_left
  intro e member
  exact (areItems e member).ofReport columns

theorem balanced_itemsText : Balanced (itemsText items) := by
  apply balanced_joined isBlank_space
  intro s member
  obtain ⟨e, given, rfl⟩ := List.mem_map.mp member
  exact ((areItems e given).compact columns).balanced

/-- A key is read back from its text, bare or in parentheses. -/
theorem Key.ofReport_text :
    Key.ofReport table (Key.text items) = items.map (Expr.qualifiedBy table) := by
  unfold Key.text
  split
  · rename_i e
    obtain ⟨c, tail, spelled, noParenthesis⟩ := (areItems e (by simp)).head_ne columns
    have bare : isEnclosed e.itemText.toList = false := by
      simp [isEnclosed, spelled, noParenthesis]
    rw [Key.ofReport, bare]
    exact map_ofReport_items columns areItems
  · have enclosed : isEnclosed ('(' :: (itemsText items ++ [')'])) = true := by
      have inside := closesAtEnd_itemsText columns areItems [')']
      have last : ('(' :: (itemsText items ++ [')'])).getLast? = some ')' := by
        rw [← List.cons_append, List.getLast?_concat]
      simp [isEnclosed, last, closesAtEnd, inside]
    rw [Key.ofReport_enclosed table enclosed, splitOutside_itemsText columns areItems]
    exact map_ofReport_items columns areItems

/-- The text of a key may follow its keyword. -/
theorem Key.isBody_text : IsBody (Key.text items) := by
  unfold Key.text
  split
  · rename_i e
    have blank : ∀ c ∈ ([] : List Char), isBlank c = true := by simp
    have single : ∀ s ∈ [e.itemText.toList], IsEntry s := by
      intro s member
      rw [List.mem_singleton.mp member]
      exact (areItems e (by simp)).entry columns
    have body := isBody_entries blank single
    rwa [List.intercalate_singleton] at body
  · have solid : Nested (fun c => isBlank c = false) 0 ('(' :: (itemsText items ++ [')'])) :=
      Nested.bracketed (balanced_itemsText columns areItems)
    refine ⟨solid.balanced, (locateClauses_eq_nil_iff solid.balanced).mp ?_⟩
    have opens : EngineClause.at? ('(' :: (itemsText items ++ [')']) ++ []) = none :=
      EngineClause.at?_of_not_word rfl _
    have passed := Passes.of_solid solid (by simp) opens 0 true
    rw [List.append_nil] at passed
    exact passed

/-- The text of a key has no blanks to trim. -/
theorem Key.trim_text : trim (Key.text items) = Key.text items := by
  unfold Key.text
  split
  · rename_i e
    exact ((areItems e (by simp)).compact columns).trim_eq
  · exact (Nested.bracketed (balanced_itemsText columns areItems)).trim_eq

end Items

/-! ### Which names are recognized

A name with a quote or a backslash gets a backslash before it as an identifier,
and is then looked for with that backslash. -/

namespace ReportedName

/-- Escaping adds one backslash for each double quote and each backslash. -/
theorem length_escapeIdentifier (s : List Char) :
    (escapeIdentifier s).length = s.length + s.countP (fun c => c == '\\' || c == '"') := by
  induction s with
  | nil => rfl
  | cons c s inductionHypothesis =>
      rw [escapeIdentifier, List.countP_cons]
      split
      · simp only [List.length_cons, inductionHypothesis]
        omega
      · simp only [List.length_cons, inductionHypothesis]
        omega

/-- A name is kept as it is exactly if there is nothing to escape in it. -/
theorem escapeIdentifier_eq_self_iff {s : List Char} :
    escapeIdentifier s = s ↔ '"' ∉ s ∧ '\\' ∉ s := by
  constructor
  · intro same
    have length := length_escapeIdentifier s
    rw [same, Nat.left_eq_add, List.countP_eq_zero] at length
    constructor
    · intro member
      exact length '"' member rfl
    · intro member
      exact length '\\' member rfl
  · rintro ⟨noQuote, noBackslash⟩
    exact IsColumnName.escapeIdentifier_eq noQuote noBackslash

/-- The text of a name is not in parentheses. -/
theorem isEnclosed_identifierText (name : String) :
    isEnclosed (identifierText name).toList = false := by
  have noParenthesis : (identifierText name).toList.head? ≠ some '(' := by
    intro first
    obtain ⟨tail, starts⟩ := List.head?_eq_some_iff.mp first
    apply Grouping.identifierText_ne_group name [] tail
    rw [List.append_nil, starts]
  rw [isEnclosed, beq_eq_false_iff_ne.mpr noParenthesis]
  rfl

/-- A key of one column is its identifier. -/
theorem keyOfReport_identifierText (table : Table) (name : String) :
    Key.ofReport table (identifierText name).toList =
      [Expr.ofReport table (identifierText name).toList] := by
  rw [Key.ofReport, isEnclosed_identifierText]
  rfl

theorem hasColumn_of_mem {table : Table} {column : Column} (member : column ∈ table.columns) :
    table.hasColumn column.name = true := by
  rw [Table.hasColumn, Table.column?, List.find?_isSome]
  exact ⟨column, member, beq_self_eq_true _⟩

/-- Different names are different columns of a table. -/
theorem reference_eq_iff {table : Table} {name other : String} :
    table.reference name = table.reference other ↔ name = other := by
  simp [Table.reference, Expr.qualified]

/-- A column is recognized by its text exactly if its name needs no backslash.
-/
theorem ofReport_eq_reference_iff {table : Table} {name : String}
    (isThere : table.hasColumn name = true) :
    Expr.ofReport table (identifierText name).toList = table.reference name ↔
      '"' ∉ name.toList ∧ '\\' ∉ name.toList := by
  rw [Expr.ofReport_identifierText, ← escapeIdentifier_eq_self_iff]
  constructor
  · intro resolved
    split at resolved
    · have same := congrArg String.toList (reference_eq_iff.mp resolved)
      rwa [String.toList_ofList] at same
    · cases resolved
  · intro same
    rw [same, String.ofList_toList, if_pos isThere]

/-- The identifier of a column, by itself or as the key that a declaration
writes, is resolved to the column exactly if its name has neither a double quote
nor a backslash. -/
theorem ofReport_identifierText_iff {table : Table} {column : Column}
    (member : column ∈ table.columns) :
    (Expr.ofReport table (identifierText column.name).toList = table.reference column.name ↔
      '"' ∉ column.name.toList ∧ '\\' ∉ column.name.toList) ∧
    Key.sql Engine.declarationSpelling [table.reference column.name] =
      .text (identifierText column.name) ∧
    (Key.ofReport table (identifierText column.name).toList = [table.reference column.name] ↔
      '"' ∉ column.name.toList ∧ '\\' ∉ column.name.toList) := by
  have resolved := ofReport_eq_reference_iff (hasColumn_of_mem member)
  refine ⟨resolved, rfl, ?_⟩
  rw [keyOfReport_identifierText, List.singleton_inj]
  exact resolved

/-- A column whose name has blanks, a comma, brackets and quotes of the other
kinds. -/
def oddColumn : Column :=
  ⟨"a, (b] 'c' \x60", .scalar .date, none, none⟩

/-- Blanks, commas, brackets and other quotes in a name do no harm. -/
theorem ofReport_identifierText_iff_odd :
    identifierText oddColumn.name = "\"a, (b] 'c' \x60\"" ∧
      Expr.ofReport ⟨"t", [oddColumn], none⟩ (identifierText oddColumn.name).toList =
        .column (some "t") oddColumn.name := by
  have member : oddColumn ∈ (⟨"t", [oddColumn], none⟩ : Table).columns := List.mem_singleton.mpr rfl
  exact ⟨rfl, (ofReport_identifierText_iff member).1.mpr (by decide)⟩

/-- Columns whose names need backslashes. -/
def escapedTable : Table where
  name := "t"
  columns := [⟨"a\"b", .scalar .date, none, none⟩, ⟨"a\\b", .scalar .date, none, none⟩,
    ⟨"a\\\\b", .scalar .date, none, none⟩]

/-- A name with a quote is not found, and one with a backslash is taken for the
name of another column. -/
theorem ofReport_identifierText_escaped :
    escapedTable.columns.map Column.name = ["a\"b", "a\\b", "a\\\\b"] ∧
      Expr.ofReport escapedTable (identifierText "a\"b").toList ≠ escapedTable.reference "a\"b" ∧
      Expr.ofReport escapedTable (identifierText "a\\b").toList =
        escapedTable.reference "a\\\\b" := by
  have raw : Expr.ofReport escapedTable (identifierText "a\"b").toList = .raw "\"a\\\"b\"" := rfl
  refine ⟨rfl, ?_, rfl⟩
  rw [raw]
  rintro ⟨⟩

end ReportedName

end ColumnarSql
