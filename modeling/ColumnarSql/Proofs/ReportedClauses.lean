/-
Module: ColumnarSql.Proofs.ReportedClauses
Purpose: The TTL entries and the settings of an engine read back from their
  texts.
Main exports:
  Ttl.ReadsBack, TtlAction.HasClearTarget, Ttl.ofReport_actionText,
  Ttl.ofReport_chars, Ttl.entry_chars, Value.ReadsBack,
  settingOfReport_settingText, entry_settingText
-/
import ColumnarSql.Proofs.LiteralTokens
import ColumnarSql.Proofs.ReportedKeys

namespace ColumnarSql

open Text

/-! ### String literals -/

/-- A quoted string is read back. -/
theorem wholeQuoted?_quoteChars (s : List Char) :
    wholeQuoted? (quoteChars s) = some (String.ofList s) := by
  have reads := TypeGrammar.QuotedBody.reads (TypeGrammar.quotedBody_escapeString s) []
  rw [wholeQuoted?, quoteChars, readQuoted, reads]

/-- Characters that stand for themselves in a literal and behind no
backslash. -/
def StandsAlone (c : Char) : Prop :=
  c ∉ ['\\', '\'', 'n', 't', 'r', '0']

instance (c : Char) : Decidable (StandsAlone c) :=
  inferInstanceAs (Decidable (c ∉ _))

/-- The letters that stand behind backslashes. -/
theorem escapeLetter?_mem {c letter : Char} (found : escapeLetter? c = some letter) :
    letter ∈ ['\\', '\'', 'n', 't', 'r', '0'] := by
  simp only [escapeLetter?] at found
  split_ifs at found <;> cases found <;> decide

/-- Characters that stand alone at the start of a literal stood at the start of
its string. -/
theorem starts_of_starts_escapeString {mark s : List Char} (alone : ∀ c ∈ mark, StandsAlone c)
    (starts : mark <+: escapeString s ++ ['\'']) : mark <+: s := by
  induction mark generalizing s with
  | nil => exact List.nil_prefix
  | cons m mark inductionHypothesis =>
      have later : ∀ c ∈ mark, StandsAlone c := fun c member => alone c (by simp [member])
      have different : ∀ c ∈ ['\\', '\'', 'n', 't', 'r', '0'], m ≠ c := by
        rintro c special rfl
        exact alone m (by simp) special
      cases s with
      | nil =>
          rw [escapeString, List.nil_append, List.cons_prefix_cons] at starts
          exact absurd starts.1 (different '\'' (by simp))
      | cons c s =>
          rw [escapeString] at starts
          cases found : escapeLetter? c with
          | some letter =>
              simp only [found, List.cons_append, List.cons_prefix_cons] at starts
              exact absurd starts.1 (different '\\' (by simp))
          | none =>
              simp only [found, List.cons_append, List.cons_prefix_cons] at starts
              rw [List.cons_prefix_cons]
              exact ⟨starts.1, inductionHypothesis later starts.2⟩

/-- A text of characters that stand alone occurs in a literal only if it occurs
in the string. -/
theorem infix_of_infix_escapeString {m : Char} {mark s : List Char}
    (alone : ∀ c ∈ m :: mark, StandsAlone c)
    (occurs : m :: mark <:+: escapeString s ++ ['\'']) : m :: mark <:+: s := by
  have different : ∀ c ∈ ['\\', '\'', 'n', 't', 'r', '0'], m ≠ c := by
    rintro c special rfl
    exact alone m (by simp) special
  induction s with
  | nil =>
      rw [escapeString, List.nil_append, List.infix_cons_iff, List.cons_prefix_cons] at occurs
      rcases occurs with starts | inside
      · exact absurd starts.1 (different '\'' (by simp))
      · simp at inside
  | cons c s inductionHypothesis =>
      rw [escapeString] at occurs
      cases found : escapeLetter? c with
      | some letter =>
          simp only [found, List.cons_append, List.infix_cons_iff, List.cons_prefix_cons] at occurs
          rcases occurs with starts | starts | inside
          · exact absurd starts.1 (different '\\' (by simp))
          · exact absurd starts.1 (different letter (escapeLetter?_mem found))
          · exact (inductionHypothesis inside).trans (List.suffix_cons c s).isInfix
      | none =>
          simp only [found, List.cons_append, List.infix_cons_iff] at occurs
          rcases occurs with starts | inside
          · apply List.IsPrefix.isInfix
            apply starts_of_starts_escapeString alone
            rw [escapeString]
            simpa only [found, List.cons_append] using starts
          · exact (inductionHypothesis inside).trans (List.suffix_cons c s).isInfix

/-! ### Cutting at the last mark -/

/-- Without the mark a text is not cut. -/
theorem splitAtLast_eq_none {m : Char} {mark s : List Char} (absent : ¬ m :: mark <:+: s) :
    splitAtLast (m :: mark) s = none := by
  induction s with
  | nil => rfl
  | cons c s inductionHypothesis =>
      rw [List.infix_cons_iff, not_or] at absent
      have notHere : dropStart? (m :: mark) (c :: s) = none := by
        by_contra starts
        obtain ⟨rest, found⟩ := Option.ne_none_iff_exists'.mp starts
        apply absent.1
        rw [dropStart?_eq_some_iff.mp found]
        exact List.prefix_append _ _
      rw [splitAtLast, inductionHypothesis absent.2, notHere]
      rfl

/-- The cut is made where no further mark follows. -/
theorem splitAtLast_mark {m : Char} {mark after : List Char}
    (absent : ¬ m :: mark <:+: mark ++ after) (before : List Char) :
    splitAtLast (m :: mark) (before ++ (m :: mark ++ after)) = some (before, after) := by
  induction before with
  | nil =>
      have here : dropStart? (m :: mark) (m :: (mark ++ after)) = some after :=
        dropStart?_eq_some_iff.mpr rfl
      rw [List.nil_append, List.cons_append, splitAtLast, splitAtLast_eq_none absent, here]
      rfl
  | cons c before inductionHypothesis =>
      rw [List.cons_append, splitAtLast, inductionHypothesis]

/-- An ending can be dropped exactly from the texts that end in it. -/
theorem dropEnd?_eq_some_iff {ending s before : List Char} :
    dropEnd? ending s = some before ↔ s = before ++ ending := by
  rw [dropEnd?, Option.map_eq_some_iff]
  constructor
  · rintro ⟨rest, found, rfl⟩
    have reversed := congrArg List.reverse (dropStart?_eq_some_iff.mp found)
    simpa using reversed
  · rintro rfl
    exact ⟨before.reverse, dropStart?_eq_some_iff.mpr (by simp), by simp⟩

/-! ### TTL entries -/

/-- The name of the place that an action moves rows to. -/
def TtlAction.target? : TtlAction → Option String
  | .delete => none
  | .toDisk name => some name
  | .toVolume name => some name

/-- The entries that read back: the expression is a column of the table, and
the words of a move do not occur in the name of its target. -/
structure Ttl.ReadsBack (table : Table) (entry : Ttl) : Prop where
  column : ∃ qualifier name, entry.expr = .column qualifier name ∧ table.hasColumn name = true
  target : ∀ action ∈ entry.action, ∀ name ∈ action.target?,
    ¬ " TO DISK ".toList <:+: name.toList ∧ ¬ " TO VOLUME ".toList <:+: name.toList

/-- The name of a target has neither the words of its own move nor those that
are looked for before them. -/
def TtlAction.HasClearTarget : TtlAction → Prop
  | .delete => True
  | .toDisk name => ¬ " TO DISK ".toList <:+: name.toList
  | .toVolume name =>
      ¬ " TO DISK ".toList <:+: name.toList ∧ ¬ " TO VOLUME ".toList <:+: name.toList

/-- An entry whose column belongs to a table. -/
def Ttl.qualifiedBy (table : Table) (entry : Ttl) : Ttl :=
  ⟨entry.expr.qualifiedBy table, entry.action⟩

/-- The words of an action, if there is one. -/
def actionText (action : Option TtlAction) : List Char :=
  action.elim [] (·.text.toList)

/-- The text of an entry. -/
def Ttl.chars (entry : Ttl) : List Char :=
  entry.expr.itemText.toList ++ actionText entry.action

/-- A move is written as its words and the literal of its target. -/
theorem toList_move (words name : String) :
    (words ++ quotedString name).toList = words.toList ++ quoteChars name.toList := by
  rw [String.toList_append, quotedString, String.toList_ofList]

/-- A mark that starts with a character occurs only where the character does. -/
theorem infix_of_infix_append {m : Char} {mark s t : List Char} (absent : m ∉ s)
    (occurs : m :: mark <:+: s ++ t) : m :: mark <:+: t := by
  induction s with
  | nil => exact occurs
  | cons c s inductionHypothesis =>
      rw [List.mem_cons, not_or] at absent
      rw [List.cons_append, List.infix_cons_iff, List.cons_prefix_cons] at occurs
      rcases occurs with starts | inside
      · exact absurd starts.1 absent.1
      · exact inductionHypothesis absent.2 inside

/-- A mark that does not occur in a string does not occur in its literal. -/
theorem not_infix_quoteChars {m : Char} {mark s : List Char}
    (alone : ∀ c ∈ m :: mark, StandsAlone c) (absent : ¬ m :: mark <:+: s) :
    ¬ m :: mark <:+: quoteChars s := by
  rw [quoteChars, List.infix_cons_iff, not_or, List.cons_prefix_cons]
  constructor
  · rintro ⟨rfl, _⟩
    exact alone '\'' (by simp) (by simp)
  · exact fun occurs => absent (infix_of_infix_escapeString alone occurs)

section Moves

variable {name : String} (column : List Char)

/-- Words that are not in the name of a target are not in its literal either,
and if they cannot start in the words before it, they do not occur at all. -/
theorem not_infix_move {m : Char} {mark words : List Char}
    (alone : ∀ c ∈ m :: mark, StandsAlone c)
    (apart : ∀ t, m :: mark <:+: words ++ '\'' :: t → m :: mark <:+: '\'' :: t)
    (absent : ¬ m :: mark <:+: name.toList) : ¬ m :: mark <:+: words ++ quoteChars name.toList := by
  intro occurs
  exact not_infix_quoteChars alone absent (apart _ occurs)

/-- The words of a move are found at their last occurrence. -/
theorem splitAtLast_move (mark : List Char) (alone : ∀ c ∈ ' ' :: mark, StandsAlone c)
    (apart : ∀ t, ' ' :: mark <:+: mark ++ '\'' :: t → ' ' :: mark <:+: '\'' :: t)
    (absent : ¬ ' ' :: mark <:+: name.toList) :
    splitAtLast (' ' :: mark) (column ++ (' ' :: mark ++ quoteChars name.toList)) =
      some (column, quoteChars name.toList) :=
  splitAtLast_mark (not_infix_move alone apart absent) column

/-- A move to a volume is not taken for a move to a disk. -/
theorem splitAtLast_toDisk_of_toVolume {column : List Char} (noBlank : ' ' ∉ column)
    (absent : ¬ " TO DISK ".toList <:+: name.toList) :
    splitAtLast " TO DISK ".toList
      (column ++ (" TO VOLUME ".toList ++ quoteChars name.toList)) = none := by
  have inMove : ¬ ' ' :: "TO DISK ".toList <:+: " TO VOLUME ".toList ++ quoteChars name.toList :=
    not_infix_move (forall_mem_of_all (by decide)) (by simp [List.infix_cons_iff]) absent
  have spelled : " TO DISK ".toList = ' ' :: "TO DISK ".toList := rfl
  rw [spelled]
  exact splitAtLast_eq_none fun occurs => inMove (infix_of_infix_append noBlank occurs)

/-- A move does not end in the word DELETE, as its target is quoted. -/
theorem dropEnd?_move (words : List Char) :
    dropEnd? " DELETE".toList (column ++ (words ++ quoteChars name.toList)) = none := by
  by_contra ends
  obtain ⟨before, found⟩ := Option.ne_none_iff_exists'.mp ends
  have last := congrArg List.getLast? (dropEnd?_eq_some_iff.mp found)
  have quote : (quoteChars name.toList).getLast? = some '\'' := by
    rw [quoteChars, ← List.cons_append, List.getLast?_concat]
  have nonempty : quoteChars name.toList ≠ [] := List.cons_ne_nil _ _
  rw [← List.append_assoc, List.getLast?_append_of_ne_nil _ nonempty, quote,
    List.getLast?_append_of_ne_nil _ (by decide)] at last
  revert last
  decide

end Moves

namespace Ttl

variable {table : Table} (columns : table.HasColumnNames) {entry : Ttl}

/-- The target of a move is read back from its literal. -/
theorem ofMove_quoteChars {column : List Char} (compact : Compact column) (s : List Char)
    (name : String) (action : String → TtlAction) :
    Ttl.ofMove table s column (quoteChars name.toList) action =
      .ok ⟨Expr.ofReport table column, some (action name)⟩ := by
  rw [Ttl.ofMove, (compact_quoteChars name.toList).trim_eq, wholeQuoted?_quoteChars,
    compact.trim_eq, String.ofList_toList]

/-- What stands before an action comes back as an expression, together with the
action. -/
theorem ofReport_actionText (table : Table) {column : List Char} (compact : Compact column)
    (noBlank : ' ' ∉ column) {action : Option TtlAction}
    (clear : ∀ a ∈ action, a.HasClearTarget) :
    Ttl.ofReport table (column ++ actionText action) =
      .ok ⟨Expr.ofReport table column, action⟩ := by
  cases action with
  | none =>
      have absent : ∀ words : List Char, ¬ ' ' :: words <:+: column :=
        fun words occurs => noBlank (occurs.subset (by simp))
      have noDelete : dropEnd? " DELETE".toList column = none := by
        by_contra ends
        obtain ⟨before, found⟩ := Option.ne_none_iff_exists'.mp ends
        apply noBlank
        rw [dropEnd?_eq_some_iff.mp found]
        simp
      have noDisk : splitAtLast " TO DISK ".toList column = none :=
        splitAtLast_eq_none (absent "TO DISK ".toList)
      have noVolume : splitAtLast " TO VOLUME ".toList column = none :=
        splitAtLast_eq_none (absent "TO VOLUME ".toList)
      rw [actionText, Option.elim_none, List.append_nil, Ttl.ofReport, noDelete]
      simp only [noDisk, noVolume]
  | some action =>
      have clearTarget := clear action rfl
      rw [actionText, Option.elim_some]
      cases action with
      | delete =>
          have ends : dropEnd? " DELETE".toList (column ++ TtlAction.delete.text.toList) =
              some column :=
            dropEnd?_eq_some_iff.mpr rfl
          rw [Ttl.ofReport, ends]
          simp only [compact.trim_eq]
      | toDisk disk =>
          have found : splitAtLast " TO DISK ".toList
              (column ++ (" TO DISK ".toList ++ quoteChars disk.toList)) = _ :=
            splitAtLast_move column "TO DISK ".toList (forall_mem_of_all (by decide))
              (by simp [List.infix_cons_iff]) clearTarget
          rw [TtlAction.text, toList_move, Ttl.ofReport, dropEnd?_move]
          simp only [found, ofMove_quoteChars compact]
      | toVolume volume =>
          have found : splitAtLast " TO VOLUME ".toList
              (column ++ (" TO VOLUME ".toList ++ quoteChars volume.toList)) = _ :=
            splitAtLast_move column "TO VOLUME ".toList (forall_mem_of_all (by decide))
              (by simp [List.infix_cons_iff]) clearTarget.2
          rw [TtlAction.text, toList_move, Ttl.ofReport, dropEnd?_move]
          simp only [splitAtLast_toDisk_of_toVolume noBlank clearTarget.1, found,
            ofMove_quoteChars compact]

include columns

/-- The name of a column that the table has holds no blank. -/
theorem noBlank_column {name : String} (isThere : table.hasColumn name = true) :
    ' ' ∉ (identifierText name).toList := by
  have isColumn := columns.isColumnName isThere
  have noBlank : ' ' ∉ name.toList := isColumn.ne_mark rfl (by decide)
  rcases isColumn.identifierText_cases with ⟨_, same⟩ | same
  · rw [same]
    exact noBlank
  · rw [same]
    simp [noBlank]

/-- An entry reads back from its text. -/
theorem ofReport_chars (reads : entry.ReadsBack table) :
    Ttl.ofReport table entry.chars = .ok (entry.qualifiedBy table) := by
  obtain ⟨⟨qualifier, name, isColumn, isThere⟩, target⟩ := reads
  obtain ⟨e, action⟩ := entry
  obtain rfl : e = .column qualifier name := isColumn
  have clear : ∀ a ∈ action, a.HasClearTarget := by
    intro a given
    cases a with
    | delete => trivial
    | toDisk disk => exact (target (.toDisk disk) given disk rfl).1
    | toVolume volume => exact target (.toVolume volume) given volume rfl
  have read := ofReport_actionText table (columns.isColumnName isThere).compact
    (noBlank_column columns isThere) clear
  rwa [Expr.ofReport_column columns isThere] at read

end Ttl

/-! ### The entries of a TTL clause hide no keyword -/

theorem follows_space {c : Char} (noB : c ≠ 'B') (noK : c ≠ 'K') (rest : List Char) :
    EngineClause.Follows (' ' :: c :: rest) := by
  left
  intro d tail same
  obtain ⟨rfl, rfl⟩ := List.cons.inj same
  exact ⟨rfl, by simpa using noB, by simpa using noK⟩

/-- The words of a move: the word TO, the kind of the target, and its name. -/
theorem passes_move {c : Char} {kind : List Char} (inWord : ∀ d ∈ c :: kind, isWordChar d = true)
    (ordinary : EngineClause.at? (c :: kind) = none) (noB : c ≠ 'B') (noK : c ≠ 'K')
    (target rest : List Char) :
    Passes ((' ' :: "TO".toList) ++ ((' ' :: c :: kind) ++ ' ' :: quoteChars target)) rest := by
  apply Passes.append
  · apply Passes.spaced
    exact .of_word (forall_mem_of_all (by decide)) (by decide) (by decide) (follows_space noB noK _)
  · apply Passes.append
    · apply Passes.spaced
      exact .of_word inWord (List.cons_ne_nil _ _) ordinary
        (follows_space (c := '\'') (by decide) (by decide) _)
    · apply Passes.spaced
      exact .of_solid (compact_quoteChars target).solid (List.cons_ne_nil _ _)
        (EngineClause.at?_of_not_word rfl _)

/-- What may stand behind the expression of an entry. -/
structure IsAction (s : List Char) : Prop where
  noComma : Nested (· ≠ ',') 0 s
  solidEnd : ∀ c ∈ s.getLast?, isBlank c = false
  passes : ∀ rest : List Char, (∀ c ∈ rest.head?, c = ',') → Passes s rest
  follows : ∀ rest : List Char, EngineClause.Follows (s ++ rest)

/-- A move holds no keyword and no comma outside its target. -/
theorem isAction_move (c : Char) (kind : List Char) (inWord : ∀ d ∈ c :: kind, isWordChar d = true)
    (ordinary : EngineClause.at? (c :: kind) = none) (noB : c ≠ 'B') (noK : c ≠ 'K')
    (target : List Char) :
    IsAction ((' ' :: "TO".toList) ++ ((' ' :: c :: kind) ++ ' ' :: quoteChars target)) where
  noComma := by
    have words : ∀ {s : List Char}, (∀ d ∈ s, isWordChar d = true) →
        Nested (· ≠ ',') 0 (' ' :: s) := fun inWord =>
      .plain rfl rfl rfl (fun _ => by decide) (Compact.of_word inWord).noComma
    apply (words (forall_mem_of_all (by decide))).concat
    apply (words inWord).concat
    exact .plain rfl rfl rfl (fun _ => by decide) (compact_quoteChars target).noComma
  solidEnd := by
    intro d last
    rw [quoteChars, ← List.append_assoc, ← List.cons_append, ← List.cons_append,
      ← List.append_assoc, List.getLast?_concat] at last
    obtain rfl := Option.mem_some_iff.mp last
    rfl
  passes rest _ := passes_move inWord ordinary noB noK target rest
  follows rest := follows_space (by decide) (by decide) _

/-- Every action may stand behind the expression of an entry. -/
theorem TtlAction.isAction (action : TtlAction) : IsAction action.text.toList := by
  cases action with
  | delete =>
      refine ⟨?_, forall_mem_of_all? (by decide), ?_, fun rest => follows_space (by decide) (by decide) _⟩
      · exact .of_plain (forall_mem_of_all (by decide)) (forall_mem_of_all (by decide))
      · intro rest comma
        have word : Passes "DELETE".toList rest :=
          .of_word (forall_mem_of_all (by decide)) (by decide) (by decide)
            (EngineClause.follows_of_comma comma)
        exact word.spaced
  | toDisk name =>
      rw [TtlAction.text, toList_move]
      exact isAction_move 'D' "ISK".toList (forall_mem_of_all (by decide)) (by decide) (by decide)
        (by decide) name.toList
  | toVolume name =>
      rw [TtlAction.text, toList_move]
      exact isAction_move 'V' "OLUME".toList (forall_mem_of_all (by decide)) (by decide) (by decide)
        (by decide) name.toList

/-- The text of a TTL entry is an entry of its clause. -/
theorem Ttl.entry_chars {table : Table} (columns : table.HasColumnNames) {entry : Ttl}
    (reads : entry.ReadsBack table) : IsEntry entry.chars := by
  obtain ⟨⟨qualifier, name, isColumn, isThere⟩, _⟩ := reads
  obtain ⟨e, action⟩ := entry
  obtain rfl : e = .column qualifier name := isColumn
  have item : IsItem table (.column qualifier name) := .column qualifier isThere
  have columnEntry := item.entry columns
  have compact := item.compact columns
  cases action with
  | none => simpa [Ttl.chars, actionText] using columnEntry
  | some action =>
      have behind := action.isAction
      rw [Ttl.chars, actionText, Option.elim_some]
      refine ⟨columnEntry.noComma.concat behind.noComma, ?_, ?_, ?_⟩
      · exact List.append_ne_nil_of_left_ne_nil columnEntry.nonempty _
      · apply trim_eq_self
        · rw [List.head?_append_of_ne_nil _ columnEntry.nonempty]
          exact compact.solid.isBlank_head rfl
        · exact isBlank_getLast_append (compact.solid.isBlank_getLast) behind.solidEnd
      · intro rest comma
        apply Passes.append _ (behind.passes rest comma)
        exact .of_solid compact.solid columnEntry.nonempty
          ((columns.isColumnName isThere).at?_eq_none (behind.follows rest))

/-! ### Settings -/

/-- The values of settings that read back. -/
inductive Value.ReadsBack : Value → Prop where
  | int (n : Int64) : ReadsBack (.int n)
  | string (s : String) : ReadsBack (.string s)
  | uint {n : UInt64} : Int64.maxValue.toInt < n.toNat → ReadsBack (.uint n)

/-- The text of a setting. -/
def settingText (setting : Setting) : List Char :=
  setting.1.toList ++ '=' :: (setting.2.literal false).toList

theorem Value.toList_literal_string (s : String) :
    (Value.literal false (.string s)).toList = quoteChars s.toList := by
  simp [Value.literal, Value.stringLiteral, quotedString]

/-- Nothing that starts with a quote is read as a number. -/
theorem Value.ofReport_quoteChars (s : List Char) :
    Value.ofReport (quoteChars s) = .string (String.ofList s) := by
  have noDigits : readDigits? (quoteChars s) = none := by
    simp [readDigits?, isDigits, quoteChars]
  have noNatural : readNatural? (quoteChars s) = none := noDigits
  have noInteger : readInteger? (quoteChars s) = none := by
    have same : readInteger? (quoteChars s) = (readNatural? (quoteChars s)).map fun n => (n : Int) :=
      rfl
    rw [same, noNatural]
    rfl
  have noDouble : Double.read? (quoteChars s) = none := by
    have noWord : ∀ word : String, word.toList.head? ≠ some '\'' →
        (String.ofList ((quoteChars s).map Char.toLower) == word) = false := by
      intro word different
      rw [beq_eq_false_iff_ne]
      rintro rfl
      apply different
      rw [String.toList_ofList, quoteChars, List.map_cons]
      rfl
    have unsigned : Double.splitSign (quoteChars s) = (false, quoteChars s) := rfl
    simp only [Double.read?, unsigned, noWord "inf" (by decide), noWord "infinity" (by decide),
      noWord "nan" (by decide), Bool.or_self, Bool.false_eq_true, if_false]
    rfl
  rw [Value.ofReport, readIntegerWithin?, noInteger, readNaturalUpTo?, noNatural, noDouble,
    wholeQuoted?_quoteChars]
  rfl

/-- Such a value reads back from its literal. -/
theorem Value.ReadsBack.ofReport_literal {value : Value} (reads : value.ReadsBack) :
    Value.ofReport (value.literal false).toList = value := by
  cases reads with
  | int n =>
      have lower : -(Int.pow 2 63) ≤ n.toInt := Int64.le_toInt n
      have upper : n.toInt ≤ Int.pow 2 63 - 1 := Int.le_sub_one_of_lt (Int64.toInt_lt n)
      rw [Value.literal, Value.ofReport, readIntegerWithin?_toString lower upper]
      simp
  | string s =>
      rw [Value.toList_literal_string, Value.ofReport_quoteChars, String.ofList_toList]
  | @uint n above =>
      have tooGreat : readIntegerWithin? (-(Int.pow 2 63)) (Int.pow 2 63 - 1)
          (digitsOf n.toNat) = none := by
        exact readIntegerWithin?_digitsOf_beyond (Int.not_le.mpr above)
      have inRange : n.toNat ≤ Nat.pow 2 64 - 1 := Nat.le_sub_one_of_lt n.toNat_lt
      have reads : readNaturalUpTo? (Nat.pow 2 64 - 1) (digitsOf n.toNat) = some n.toNat := by
        rw [readNaturalUpTo?, readNatural?_digitsOf]
        simp [Option.filter, inRange]
      rw [Value.literal, toList_toString_nat, Value.ofReport, tooGreat, reads]
      simp

/-- A text is cut at the first mark. -/
theorem splitOnce_of_not_mem {mark : Char} {before : List Char} (absent : mark ∉ before)
    (after : List Char) : splitOnce mark (before ++ mark :: after) = some (before, after) := by
  induction before with
  | nil => simp [splitOnce]
  | cons c before inductionHypothesis =>
      rw [List.mem_cons, not_or] at absent
      simp [splitOnce, Ne.symm absent.1, inductionHypothesis absent.2]

/-- A setting reads back with its name and with what its literal is read as. -/
theorem settingOfReport_settingText {setting : Setting} (isName : isWord setting.1.toList = true) :
    settingOfReport (settingText setting) =
      .ok (setting.1, Value.ofReport (setting.2.literal false).toList) := by
  have inWord := TypeGrammar.mem_of_isWord isName
  have noMark : '=' ∉ setting.1.toList := by
    intro member
    cases inWord '=' member
  rw [settingOfReport, settingText, splitOnce_of_not_mem noMark]
  simp only [(Compact.of_word inWord).trim_eq, (setting.2.literal_isToken false).compact.trim_eq,
    String.ofList_toList]

/-- The text of a setting is an entry of its clause, whatever its value. -/
theorem entry_settingText {setting : Setting} (isName : isWord setting.1.toList = true) :
    IsEntry (settingText setting) := by
  have inWord := TypeGrammar.mem_of_isWord isName
  have assigned : Compact ('=' :: (setting.2.literal false).toList) :=
    .plain rfl rfl rfl (fun _ => by decide) (setting.2.literal_isToken false).compact
  apply IsEntry.of_compact ((Compact.of_word inWord).append assigned)
  · exact List.append_ne_nil_of_right_ne_nil _ (List.cons_ne_nil _ _)
  · intro rest _
    rw [List.append_assoc, List.cons_append]
    exact EngineClause.at?_word_mark inWord rfl rfl _

/-- The settings that read back. -/
structure SettingReadsBack (setting : Setting) : Prop where
  name : isWord setting.1.toList = true
  value : setting.2.ReadsBack

/-- A setting is read back from its text. -/
theorem SettingReadsBack.ofReport_text {setting : Setting} (reads : SettingReadsBack setting) :
    settingOfReport (settingText setting) = .ok setting := by
  rw [settingOfReport_settingText reads.name, reads.value.ofReport_literal]

end ColumnarSql
