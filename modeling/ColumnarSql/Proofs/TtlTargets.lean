/-
Module: ColumnarSql.Proofs.TtlTargets
Purpose: Which TTL entries read back.  The words of a move are looked for
  without regard to quotes, so a target whose name has them in it is cut apart.
Main exports:
  exists_last_infix, splitAtLast_quoteChars, wholeQuoted?_trim_escapeString,
  Ttl.ofReport_hidden, Ttl.ofReport_sql_iff
-/
import ColumnarSql.Proofs.ReportedClauses

namespace ColumnarSql

open Text

/-! ### Words inside a literal -/

/-- A mark that occurs has a last occurrence. -/
theorem exists_last_infix {m : Char} {mark s : List Char} (occurs : m :: mark <:+: s) :
    ∃ before after, s = before ++ (m :: mark ++ after) ∧ ¬ m :: mark <:+: mark ++ after := by
  induction s with
  | nil => simp at occurs
  | cons c s inductionHypothesis =>
      by_cases later : m :: mark <:+: s
      · obtain ⟨before, after, rfl, absent⟩ := inductionHypothesis later
        exact ⟨c :: before, after, rfl, absent⟩
      · rcases List.infix_cons_iff.mp occurs with ⟨after, starts⟩ | inside
        · obtain ⟨rfl, rfl⟩ := List.cons.inj starts
          exact ⟨[], after, rfl, later⟩
        · exact absurd inside later

/-- Strings are escaped character by character. -/
theorem escapeString_append (s t : List Char) :
    escapeString (s ++ t) = escapeString s ++ escapeString t := by
  induction s with
  | nil => rfl
  | cons c s inductionHypothesis =>
      rw [List.cons_append, escapeString, escapeString, inductionHypothesis]
      cases escapeLetter? c <;> rfl

/-- A string without special characters is not escaped. -/
theorem escapeString_eq_self {s : List Char} (unescaped : ∀ c ∈ s, escapeLetter? c = none) :
    escapeString s = s := by
  induction s with
  | nil => rfl
  | cons c s inductionHypothesis =>
      rw [List.forall_mem_cons] at unescaped
      rw [escapeString, unescaped.1, inductionHypothesis unescaped.2]

/-- A mark in a string is found at its last occurrence in the literal, and what
is left is the end of the literal. -/
theorem splitAtLast_quoteChars {m : Char} {mark s : List Char}
    (alone : ∀ c ∈ m :: mark, StandsAlone c) (unescaped : ∀ c ∈ m :: mark, escapeLetter? c = none)
    (occurs : m :: mark <:+: s) (front : List Char) :
    ∃ before rest, splitAtLast (m :: mark) (front ++ quoteChars s) =
      some (before, escapeString rest ++ ['\'']) := by
  obtain ⟨before, rest, rfl, absent⟩ := exists_last_infix occurs
  have markKept : escapeString mark = mark :=
    escapeString_eq_self fun c member => unescaped c (List.mem_cons_of_mem _ member)
  have noneLeft : ¬ m :: mark <:+: mark ++ (escapeString rest ++ ['\'']) := by
    intro inside
    apply absent
    apply infix_of_infix_escapeString alone
    rwa [escapeString_append, markKept, List.append_assoc]
  have split : front ++ quoteChars (before ++ (m :: mark ++ rest)) =
      (front ++ '\'' :: escapeString before) ++ (m :: mark ++ (escapeString rest ++ ['\''])) := by
    rw [quoteChars, escapeString_append, escapeString_append, escapeString_eq_self unescaped]
    simp
  exact ⟨_, rest, by rw [split, splitAtLast_mark noneLeft]⟩

/-! ### The end of a literal is no literal -/

/-- Taking blanks off the front of an escaped string leaves an escaped string.
-/
theorem exists_dropWhile_escapeString (s : List Char) :
    ∃ rest, (escapeString s ++ ['\'']).dropWhile isBlank = escapeString rest ++ ['\''] := by
  induction s with
  | nil => exact ⟨[], rfl⟩
  | cons c s inductionHypothesis =>
      rw [escapeString]
      cases found : escapeLetter? c with
      | some letter =>
          refine ⟨c :: s, ?_⟩
          rw [escapeString, found]
          rfl
      | none =>
          by_cases blank : isBlank c = true
          · obtain ⟨rest, dropped⟩ := inductionHypothesis
            refine ⟨rest, ?_⟩
            rw [List.cons_append, List.dropWhile_cons_of_pos blank, dropped]
          · refine ⟨c :: s, ?_⟩
            rw [List.cons_append, List.dropWhile_cons_of_neg blank, escapeString, found,
              List.cons_append]

/-- The end of a literal is no literal, as its first quote is missing. -/
theorem wholeQuoted?_escapeString (s : List Char) :
    wholeQuoted? (escapeString s ++ ['\'']) = none := by
  cases s with
  | nil => rfl
  | cons c s =>
      rw [escapeString]
      cases found : escapeLetter? c with
      | some letter => rfl
      | none =>
          have noQuote : c ≠ '\'' := by
            rintro rfl
            cases found
          simp [wholeQuoted?, readQuoted, noQuote]

theorem wholeQuoted?_trim_escapeString (s : List Char) :
    wholeQuoted? (trim (escapeString s ++ ['\''])) = none := by
  obtain ⟨rest, dropped⟩ := exists_dropWhile_escapeString s
  have ends : ¬ isBlank '\'' = true := by decide
  rw [trim_eq_rdropWhile, dropped, List.rdropWhile_concat_neg _ _ _ ends,
    wholeQuoted?_escapeString]

/-! ### Entries that do not read back -/

instance : DecidablePred TtlAction.HasClearTarget
  | .delete => inferInstanceAs (Decidable True)
  | .toDisk _ => inferInstanceAs (Decidable (¬ _))
  | .toVolume _ => inferInstanceAs (Decidable (_ ∧ _))

namespace Ttl

variable {table : Table}

/-- A move with the end of a literal as its target is refused. -/
theorem ofMove_escapeString (s before rest : List Char) (action : String → TtlAction) :
    Ttl.ofMove table s before (escapeString rest ++ ['\'']) action =
      .error (.parse 0 (.malformedTtlTarget (String.ofList s))) := by
  rw [Ttl.ofMove, wholeQuoted?_trim_escapeString]

/-- An entry is refused if the words that are looked for stand in the name of its
target. -/
theorem ofReport_hidden {column : List Char} (noBlank : ' ' ∉ column) {action : TtlAction}
    (hidden : ¬ action.HasClearTarget) :
    Ttl.ofReport table (column ++ action.text.toList) =
      .error (.parse 0 (.malformedTtlTarget (String.ofList (column ++ action.text.toList)))) := by
  have inName : ∀ mark ∈ [" TO DISK ".toList, " TO VOLUME ".toList], ∀ {s : List Char},
      mark <:+: s → ∀ words : List Char, ∃ before rest,
        splitAtLast mark (column ++ (words ++ quoteChars s)) =
          some (before, escapeString rest ++ ['\'']) := by
    intro mark isMark s occurs words
    rw [← List.append_assoc]
    simp only [List.mem_cons, List.not_mem_nil, or_false] at isMark
    rcases isMark with rfl | rfl
    · exact splitAtLast_quoteChars (forall_mem_of_all (by decide)) (forall_mem_of_all (by decide))
        occurs _
    · exact splitAtLast_quoteChars (forall_mem_of_all (by decide)) (forall_mem_of_all (by decide))
        occurs _
  cases action with
  | delete => exact absurd trivial hidden
  | toDisk name =>
      obtain ⟨before, rest, found⟩ := inName _ (by simp) (not_not.mp hidden) " TO DISK ".toList
      rw [TtlAction.text, toList_move, Ttl.ofReport, dropEnd?_move]
      simp only [found, ofMove_escapeString]
  | toVolume name =>
      rw [TtlAction.text, toList_move, Ttl.ofReport, dropEnd?_move]
      -- The words for a disk are looked for first, those for a volume only if they are absent.
      by_cases disk : " TO DISK ".toList <:+: name.toList
      · obtain ⟨before, rest, found⟩ := inName _ (by simp) disk " TO VOLUME ".toList
        simp only [found, ofMove_escapeString]
      · have volume : " TO VOLUME ".toList <:+: name.toList := by
          by_contra absent
          exact hidden ⟨disk, absent⟩
        obtain ⟨before, rest, found⟩ := inName _ (by simp) volume " TO VOLUME ".toList
        simp only [splitAtLast_toDisk_of_toVolume noBlank disk, found, ofMove_escapeString]

/-- An entry is written as its column and the words of its action. -/
theorem writes_sql (qualifier : Option String) (name : String) (action : Option TtlAction)
    (doubled : Bool) :
    Fragment.Writes ((⟨.column qualifier name, action⟩ : Ttl).sql ⟨doubled, false⟩)
      ((identifierText name).toList ++ actionText action) := by
  have column : Fragment.Writes ((Expr.column qualifier name).sql ⟨doubled, false⟩)
      (identifierText name).toList := by
    cases qualifier <;> exact .text _
  apply column.append
  cases action with
  | none => exact .empty
  | some action => exact .text _

/-- The text of a TTL entry on a plain column reads back as the entry exactly if
the name of its target is clear; otherwise it is refused. -/
theorem ofReport_sql_iff {column : Column} (member : column ∈ table.columns)
    (plain : isPlainName column.name.toList = true) (qualifier : Option String)
    (action : Option TtlAction) (doubled : Bool) (options : CompileOptions)
    (earlier : List Parameter) :
    ∃ text : String,
      ((⟨.column qualifier column.name, action⟩ : Ttl).sql ⟨doubled, false⟩).spell options earlier =
        (.ok text, earlier) ∧
      (Ttl.ofReport table text.toList = .ok ⟨table.reference column.name, action⟩ ↔
        ∀ a ∈ action, a.HasClearTarget) ∧
      (¬ (∀ a ∈ action, a.HasClearTarget) →
        Ttl.ofReport table text.toList = .error (.parse 0 (.malformedTtlTarget text))) := by
  have written := writes_sql qualifier column.name action doubled
  have spelled := Grouping.identifierText_of_plain plain
  have inWord := Grouping.isWordChar_of_isPlainName plain
  have noMark : ∀ mark : Char, isWordChar mark = false → mark ∉ column.name.toList := by
    intro mark noWord inName
    rw [inWord mark inName] at noWord
    cases noWord
  have resolved : Expr.ofReport table (identifierText column.name).toList =
      table.reference column.name :=
    (ReportedName.ofReport_eq_reference_iff (ReportedName.hasColumn_of_mem member)).mpr
      ⟨noMark '"' rfl, noMark '\\' rfl⟩
  rw [spelled] at written resolved
  have refused : ¬ (∀ a ∈ action, a.HasClearTarget) →
      Ttl.ofReport table (column.name.toList ++ actionText action) = .error (.parse 0
        (.malformedTtlTarget (String.ofList (column.name.toList ++ actionText action)))) := by
    intro hidden
    cases action with
    | none => simp at hidden
    | some action => exact ofReport_hidden (noMark ' ' rfl) (by simpa using hidden)
  refine ⟨String.ofList (column.name.toList ++ actionText action), ?_, ?_⟩
  · rw [Grouping.spell_of_writes written]
  rw [String.toList_ofList]
  refine ⟨⟨?_, ?_⟩, refused⟩
  · intro reads
    by_contra hidden
    rw [refused hidden] at reads
    cases reads
  · intro clear
    rw [ofReport_actionText table (Compact.of_word inWord) (noMark ' ' rfl) clear, resolved]

/-- A column for TTL entries. -/
def dayColumn : Column :=
  ⟨"day", .scalar .date, none, none⟩

/-- In the name of a disk the words for a volume do no harm. -/
theorem ofReport_sql_iff_disk :
    ∃ text, ((⟨.column none "day", some (.toDisk "it's TO VOLUME x DELETE")⟩ : Ttl).sql
        ⟨true, false⟩).spell ⟨false, .pyformat⟩ [] = (.ok text, []) ∧
      Ttl.ofReport ⟨"t", [dayColumn], none⟩ text.toList =
        .ok ⟨.column (some "t") "day", some (.toDisk "it's TO VOLUME x DELETE")⟩ := by
  have member : dayColumn ∈ (⟨"t", [dayColumn], none⟩ : Table).columns := List.mem_singleton.mpr rfl
  have clear : ∀ a ∈ some (TtlAction.toDisk "it's TO VOLUME x DELETE"), a.HasClearTarget := by
    intro a given
    obtain rfl := Option.mem_some_iff.mp given
    decide
  obtain ⟨text, spelled, reads, _⟩ :=
    ofReport_sql_iff member (by decide) none (some (.toDisk "it's TO VOLUME x DELETE")) true
      ⟨false, .pyformat⟩ []
  exact ⟨text, spelled, reads.mpr clear⟩

/-- In the name of a volume the words for a disk are taken for a move to a
disk. -/
theorem ofReport_volume_refused :
    ((⟨.column none "day", some (.toVolume "a TO DISK b")⟩ : Ttl).sql
        ⟨false, false⟩).spell ⟨true, .named⟩ [] = (.ok "day TO VOLUME 'a TO DISK b'", []) ∧
      Ttl.ofReport ⟨"t", [dayColumn], none⟩ "day TO VOLUME 'a TO DISK b'".toList ≠
        .ok ⟨.column (some "t") "day", some (.toVolume "a TO DISK b")⟩ := by
  have refused : Ttl.ofReport ⟨"t", [dayColumn], none⟩ "day TO VOLUME 'a TO DISK b'".toList =
      .error (.parse 0 (.malformedTtlTarget "day TO VOLUME 'a TO DISK b'")) := rfl
  refine ⟨rfl, ?_⟩
  rw [refused]
  rintro ⟨⟩

end Ttl

end ColumnarSql
