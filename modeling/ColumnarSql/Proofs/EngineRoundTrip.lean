/-
Module: ColumnarSql.Proofs.EngineRoundTrip
Purpose: An engine reads back from its declaration.  Writing and reading meet
  at the list of clauses with their texts: the declaration is the text of that
  list, and each clause reads back from its own text.
Main exports:
  Engine.ReadsBack, Engine.qualifiedBy, Engine.clauseBody?,
  Engine.withSettings, Engine.declaration_withSettings,
  Engine.parse_withSettings, Engine.ofReport_withSettings,
  Engine.ofReport_declaration
-/
import ColumnarSql.Proofs.EngineAssembly
import ColumnarSql.Proofs.ReportedClauses

namespace ColumnarSql

open Text

/-! ### The engines that read back -/

namespace Engine

/-- A slot for a key that is empty or holds items. -/
def HoldsItems (table : Table) (slot : Option Key) : Prop :=
  ∀ key ∈ slot, key ≠ [] ∧ ∀ e ∈ key, IsItem table e

/-- What a table and an engine need so that the engine reads back from its
declaration. -/
structure ReadsBack (table : Table) (engine : Engine) : Prop where
  columns : table.HasColumnNames
  name : isPlainName engine.name.toList = true
  args : ∀ e ∈ engine.args, IsItem table e
  keys : ∀ slot ∈ [engine.partitionBy, engine.orderBy, engine.primaryKey, engine.sampleBy],
    ∀ key ∈ slot, key ≠ [] ∧ ∀ e ∈ key, IsItem table e
  ttl : ∀ entry ∈ engine.ttl, entry.ReadsBack table
  settings : ∀ setting ∈ engine.settings, SettingReadsBack setting

/-- Each of the four slots for keys holds items or nothing. -/
theorem ReadsBack.slots {table : Table} {engine : Engine} (reads : engine.ReadsBack table) :
    HoldsItems table engine.partitionBy ∧ HoldsItems table engine.orderBy ∧
      HoldsItems table engine.primaryKey ∧ HoldsItems table engine.sampleBy := by
  have keys := reads.keys
  simp only [List.forall_mem_cons, List.not_mem_nil, false_imp_iff, implies_true, and_true] at keys
  exact keys

/-- An engine whose columns belong to a table. -/
def qualifiedBy (table : Table) (engine : Engine) : Engine where
  name := engine.name
  args := engine.args.map (Expr.qualifiedBy table)
  partitionBy := engine.partitionBy.map (List.map (Expr.qualifiedBy table))
  orderBy := engine.orderBy.map (List.map (Expr.qualifiedBy table))
  primaryKey := engine.primaryKey.map (List.map (Expr.qualifiedBy table))
  sampleBy := engine.sampleBy.map (List.map (Expr.qualifiedBy table))
  ttl := engine.ttl.map (Ttl.qualifiedBy table)
  settings := engine.settings

/-- An engine with other settings. -/
def withSettings (engine : Engine) (settings : List Setting) : Engine :=
  { engine with settings := settings }

/-! ### The text of a declaration -/

/-- The text of the TTL clause behind its keyword. -/
def ttlText (engine : Engine) : List Char :=
  List.intercalate ",\n    ".toList (engine.ttl.map Ttl.chars)

/-- The text of the SETTINGS clause behind its keyword. -/
def settingsChars (engine : Engine) : List Char :=
  List.intercalate ", ".toList (engine.settings.map settingText)

/-- The text of a clause behind its keyword, if the engine has the clause. -/
def clauseBody? (engine : Engine) : EngineClause → Option (List Char)
  | .partitionBy => engine.partitionBy.map Key.text
  | .orderBy => engine.orderBy.map Key.text
  | .primaryKey => engine.primaryKey.map Key.text
  | .sampleBy => engine.sampleBy.map Key.text
  | .ttl => if engine.ttl.isEmpty then none else some engine.ttlText
  | .settings => if engine.settings.isEmpty then none else some engine.settingsChars

/-- The clauses of an engine in the order in which they are declared. -/
def clauses (engine : Engine) : List (EngineClause × List Char) :=
  EngineClause.all.filterMap fun clause =>
    (engine.clauseBody? clause).map fun body => (clause, ' ' :: body)

/-- The text of a clause with its keyword, if the engine has the clause. -/
def clauseChars (engine : Engine) (clause : EngineClause) : List Char :=
  (engine.clauseBody? clause).elim [] fun body => ' ' :: (clause.keyword ++ ' ' :: body)

/-- The clauses are written in their fixed order. -/
theorem clausesText_clauses (engine : Engine) :
    clausesText engine.clauses = EngineClause.all.flatMap engine.clauseChars := by
  rw [clausesText, clauses]
  induction EngineClause.all with
  | nil => rfl
  | cons clause rest inductionHypothesis =>
      rw [List.flatMap_cons, ← inductionHypothesis, clauseChars]
      cases found : engine.clauseBody? clause with
      | none => simp [found]
      | some body => simp [found]

/-- No clause is declared twice. -/
theorem nodup_clauses (engine : Engine) : (engine.clauses.map Prod.fst).Nodup := by
  have among : ∀ kinds : List EngineClause,
      List.Sublist ((kinds.filterMap fun clause =>
        (engine.clauseBody? clause).map fun body => (clause, ' ' :: body)).map Prod.fst) kinds := by
    intro kinds
    induction kinds with
    | nil => exact .slnil
    | cons clause rest inductionHypothesis =>
        cases found : engine.clauseBody? clause with
        | none => simpa [found] using inductionHypothesis.cons clause
        | some body => simpa [found] using inductionHypothesis
  exact (among EngineClause.all).nodup (by decide)

/-- An engine declares exactly the clauses that have a body. -/
theorem mem_clauses {engine : Engine} {clause : EngineClause} {tail : List Char} :
    (clause, tail) ∈ engine.clauses ↔
      ∃ body, engine.clauseBody? clause = some body ∧ tail = ' ' :: body := by
  have isKind : clause ∈ EngineClause.all := by cases clause <;> decide
  rw [clauses, List.mem_filterMap]
  constructor
  · rintro ⟨kind, _, spelled⟩
    obtain ⟨body, found, same⟩ := Option.map_eq_some_iff.mp spelled
    obtain ⟨rfl, rfl⟩ := Prod.mk.inj same
    exact ⟨body, found, rfl⟩
  · rintro ⟨body, found, rfl⟩
    exact ⟨clause, isKind, by rw [found, Option.map_some]⟩

/-- Looking a clause up finds its body behind a space. -/
theorem lookup_clauses (engine : Engine) (clause : EngineClause) :
    engine.clauses.lookup clause = (engine.clauseBody? clause).map (' ' :: ·) := by
  cases found : engine.clauseBody? clause with
  | none =>
      rw [Option.map_none, List.lookup_eq_none_iff]
      rintro ⟨kind, tail⟩ member
      obtain ⟨body, there, _⟩ := mem_clauses.mp member
      have different : clause ≠ kind := by
        rintro rfl
        rw [found] at there
        cases there
      simpa using different
  | some body =>
      obtain ⟨before, after, split⟩ := List.append_of_mem (mem_clauses.mpr ⟨body, found, rfl⟩)
      have distinct := engine.nodup_clauses
      rw [Option.map_some, List.lookup_eq_some_iff]
      refine ⟨before, after, split, ?_⟩
      rintro ⟨kind, tail⟩ earlier
      have different : clause ≠ kind := by
        rintro rfl
        rw [split, List.map_append, List.nodup_append] at distinct
        exact distinct.2.2 clause (List.mem_map_of_mem earlier) clause (by simp) rfl
      simpa using different

/-! ### The declaration as text -/

section Declaration

variable {table : Table} {engine : Engine}

/-- An item of a key is written as its text. -/
theorem writes_item {e : Expr} (item : IsItem table e) :
    Fragment.Writes (e.sql declarationSpelling) e.itemText.toList := by
  rw [item.sql_eq]
  exact .text _

/-- Items are written as their texts, with commas between them. -/
theorem writes_items {items : List Expr} (areItems : ∀ e ∈ items, IsItem table e) :
    Fragment.Writes (Expr.listSql declarationSpelling items) (itemsText items) :=
  .joinWith ", " fun e member => writes_item (areItems e member)

theorem writes_key : ∀ {key : Key}, (∀ e ∈ key, IsItem table e) →
    Fragment.Writes (Key.sql declarationSpelling key) key.text
  | [], areItems => ((Fragment.Writes.text "(").append (writes_items areItems)).append (.text ")")
  | [e], areItems => writes_item (areItems e (by simp))
  | _ :: _ :: _, areItems =>
      ((Fragment.Writes.text "(").append (writes_items areItems)).append (.text ")")

/-- A key is written with its keyword, or not at all where the slot is empty. -/
theorem writes_keySql (words : String) (clause : EngineClause)
    (spelled : (" " ++ words ++ " ").toList = ' ' :: (clause.keyword ++ [' ']))
    {slot : Option Key} (keys : HoldsItems table slot)
    (isBody : engine.clauseBody? clause = slot.map Key.text) :
    Fragment.Writes (keySql declarationSpelling words slot) (engine.clauseChars clause) := by
  rw [clauseChars, isBody]
  cases slot with
  | none => exact .empty
  | some key =>
      obtain ⟨nonempty, areItems⟩ := keys key rfl
      cases key with
      | nil => exact absurd rfl nonempty
      | cons e rest =>
          have written := (Fragment.Writes.text (" " ++ words ++ " ")).append (writes_key areItems)
          rwa [spelled, List.cons_append, List.append_assoc] at written

/-- An entry of a lifetime is written as its text. -/
theorem writes_ttl {entry : Ttl} (reads : entry.ReadsBack table) :
    Fragment.Writes (entry.sql declarationSpelling) entry.chars := by
  obtain ⟨⟨qualifier, name, isColumn, isThere⟩, _⟩ := reads
  obtain ⟨e, action⟩ := entry
  obtain rfl : e = .column qualifier name := isColumn
  apply Fragment.Writes.append (writes_item (.column qualifier isThere))
  cases action with
  | none => exact .empty
  | some action => exact .text _

theorem toList_settingsText (settings : List Setting) :
    (settingsText false settings).toList =
      List.intercalate ", ".toList (settings.map settingText) := by
  rw [settingsText, toList_joinWith, List.map_map]
  congr 1
  apply List.map_congr_left
  intro setting _
  simp [settingText]

/-- Lifetimes are written behind their keyword, or not at all where there are
none. -/
theorem writes_ttlClause (reads : ∀ entry ∈ engine.ttl, entry.ReadsBack table) :
    Fragment.Writes
      (if engine.ttl.isEmpty then .empty
        else .text " TTL " ++ ttlListSql declarationSpelling engine.ttl)
      (engine.clauseChars .ttl) := by
  rw [clauseChars, clauseBody?]
  split
  · exact .empty
  · exact (Fragment.Writes.text " TTL ").append
      (.joinWith _ fun entry member => writes_ttl (reads entry member))

/-- Settings are written behind their keyword, or not at all where there are
none. -/
theorem writes_settingsClause (engine : Engine) :
    Fragment.Writes (settingsSql false engine.settings) (engine.clauseChars .settings) := by
  rw [clauseChars, clauseBody?, settingsSql]
  split
  · exact .empty
  · have written := Fragment.Writes.text (" SETTINGS " ++ settingsText false engine.settings)
    rwa [String.toList_append, toList_settingsText] at written

/-- What stands behind the word ENGINE in a declaration. -/
def report (engine : Engine) : String :=
  String.ofList (engine.name.toList ++
    (argsText (some (itemsText engine.args)) ++ clausesText engine.clauses))

/-- What stands before the settings in a report. -/
def reportHead (engine : Engine) : List Char :=
  engine.name.toList ++ (argsText (some (itemsText engine.args)) ++
    [EngineClause.partitionBy, .orderBy, .primaryKey, .sampleBy, .ttl].flatMap engine.clauseChars)

/-- The settings stand at the end of a report. -/
theorem toList_report_withSettings (engine : Engine) (settings : List Setting) :
    (engine.withSettings settings).report.toList =
      engine.reportHead ++ (engine.withSettings settings).clauseChars .settings := by
  rw [report, String.toList_ofList, clausesText_clauses, reportHead, EngineClause.all]
  simp only [List.flatMap_cons, List.flatMap_nil, List.append_nil, List.append_assoc]
  rfl

/-- The declaration of an engine is its report behind the word ENGINE, whatever
its settings are. -/
theorem writes_sql (reads : engine.ReadsBack table) (settings : List Setting) :
    Fragment.Writes ((engine.withSettings settings).sql declarationSpelling)
      ("ENGINE = ".toList ++ (engine.withSettings settings).report.toList) := by
  obtain ⟨partitionBy, orderBy, primaryKey, sampleBy⟩ := reads.slots
  have head := Fragment.Writes.text ("ENGINE = " ++ identifierText engine.name ++ "(")
  have written := ((((((((head.append (writes_items reads.args)).append (.text ")")).append
    (writes_keySql "PARTITION BY" .partitionBy rfl partitionBy rfl)).append
    (writes_keySql "ORDER BY" .orderBy rfl orderBy rfl)).append
    (writes_keySql "PRIMARY KEY" .primaryKey rfl primaryKey rfl)).append
    (writes_keySql "SAMPLE BY" .sampleBy rfl sampleBy rfl)).append
    (writes_ttlClause reads.ttl)).append (writes_settingsClause (engine.withSettings settings)))
  refine ⟨written.isText, written.chars.trans ?_⟩
  rw [toList_report_withSettings, reportHead]
  simp [argsText, Grouping.identifierText_of_plain reads.name]

/-- An engine that reads back has a declaration, whatever settings it is
given. -/
theorem declaration_withSettings (reads : engine.ReadsBack table) (settings : List Setting) :
    (engine.withSettings settings).declaration =
      .ok ("ENGINE = " ++ (engine.withSettings settings).report) := by
  have written := writes_sql reads settings
  rw [declaration, Grouping.spell_of_writes written, String.ofList_append, String.ofList_toList,
    String.ofList_toList]

/-- An engine that reads back is declared by its report. -/
theorem declaration_eq (reads : engine.ReadsBack table) :
    engine.declaration = .ok ("ENGINE = " ++ engine.report) :=
  declaration_withSettings reads engine.settings

/-! ### Reading the declaration back -/

/-- Between TTL entries a new line starts. -/
theorem isBlank_newLine : ∀ c ∈ ['\n', ' ', ' ', ' ', ' '], isBlank c = true :=
  forall_mem_of_all (by decide)

/-- The texts of lifetimes are entries of a clause. -/
theorem ttl_entries (reads : engine.ReadsBack table) :
    ∀ s ∈ engine.ttl.map Ttl.chars, IsEntry s := by
  intro s member
  obtain ⟨entry, given, rfl⟩ := List.mem_map.mp member
  exact Ttl.entry_chars reads.columns (reads.ttl entry given)

/-- The texts of settings are entries of a clause if their names are words. -/
theorem settings_entries {settings : List Setting}
    (named : ∀ setting ∈ settings, isWord setting.1.toList = true) :
    ∀ s ∈ settings.map settingText, IsEntry s := by
  intro s member
  obtain ⟨setting, given, rfl⟩ := List.mem_map.mp member
  exact entry_settingText (named setting given)

/-- Cutting the text of the settings at its commas gives the settings apart. -/
theorem splitOutside_settings {settings : List Setting}
    (named : ∀ setting ∈ settings, isWord setting.1.toList = true) :
    splitOutside ',' (List.intercalate ", ".toList (settings.map settingText)) =
      settings.map settingText :=
  splitOutside_entries isBlank_space (settings_entries named)

theorem ReadsBack.named (reads : engine.ReadsBack table) :
    ∀ setting ∈ engine.settings, isWord setting.1.toList = true :=
  fun setting member => (reads.settings setting member).name

/-- The text of each clause is a body without blanks at its ends. -/
theorem isBody_clauseBody? (reads : engine.ReadsBack table) {settings : List Setting}
    (named : ∀ setting ∈ settings, isWord setting.1.toList = true) {clause : EngineClause}
    {body : List Char} (found : (engine.withSettings settings).clauseBody? clause = some body) :
    IsBody body ∧ trim body = body := by
  have ofKey : ∀ {slot : Option Key}, HoldsItems table slot →
      slot.map Key.text = some body → IsBody body ∧ trim body = body := by
    intro slot keys found
    obtain ⟨key, given, rfl⟩ := Option.map_eq_some_iff.mp found
    have areItems := (keys key given).2
    exact ⟨Key.isBody_text reads.columns areItems, Key.trim_text reads.columns areItems⟩
  obtain ⟨partitionBy, orderBy, primaryKey, sampleBy⟩ := reads.slots
  cases clause with
  | partitionBy => exact ofKey partitionBy found
  | orderBy => exact ofKey orderBy found
  | primaryKey => exact ofKey primaryKey found
  | sampleBy => exact ofKey sampleBy found
  | ttl =>
      simp only [clauseBody?, Option.ite_none_left_eq_some, Option.some.injEq] at found
      obtain ⟨_, rfl⟩ := found
      have entries := ttl_entries reads
      exact ⟨isBody_entries isBlank_newLine entries, trim_entries _ entries⟩
  | settings =>
      simp only [clauseBody?, Option.ite_none_left_eq_some, Option.some.injEq] at found
      obtain ⟨_, rfl⟩ := found
      exact ⟨isBody_entries isBlank_space (settings_entries named),
        trim_entries _ (settings_entries named)⟩

/-- A plain name is a word. -/
theorem isWord_of_isPlainName {s : List Char} (plain : isPlainName s = true) :
    isWord s = true := by
  have inWord := Grouping.isWordChar_of_isPlainName plain
  have nonempty : s ≠ [] := by
    rintro rfl
    cases plain
  simp only [isWord, Bool.and_eq_true, List.all_eq_true]
  exact ⟨by simpa using nonempty, inWord⟩

/-- The texts of arguments are entries of a list. -/
theorem items_entries (reads : engine.ReadsBack table) :
    ∀ s ∈ engine.args.map (·.itemText.toList), IsEntry s := by
  intro s member
  obtain ⟨e, given, rfl⟩ := List.mem_map.mp member
  exact (reads.args e given).entry reads.columns

/-- Taking the text of a declaration apart gives the texts of its clauses. -/
theorem parse_withSettings (reads : engine.ReadsBack table) {settings : List Setting}
    (named : ∀ setting ∈ settings, isWord setting.1.toList = true) :
    ∃ text, EngineText.parse (engine.withSettings settings).report = .ok text ∧
      text.name = engine.name ∧ text.args = some (String.ofList (itemsText engine.args)) ∧
      ∀ clause, text.get? clause =
        ((engine.withSettings settings).clauseBody? clause).map String.ofList := by
  have argsBalanced : ∀ a ∈ some (itemsText engine.args), Balanced a := by
    intro a given
    obtain rfl := Option.mem_some_iff.mp given
    exact balanced_itemsText reads.columns reads.args
  have bodies : ∀ item ∈ (engine.withSettings settings).clauses,
      ∃ body, item.2 = ' ' :: body ∧ IsBody body := by
    rintro ⟨clause, tail⟩ member
    obtain ⟨body, found, rfl⟩ := mem_clauses.mp member
    exact ⟨body, rfl, (isBody_clauseBody? reads named found).1⟩
  have shape : (engine.withSettings settings).report.toList = engine.name.toList ++
      (argsText (some (itemsText engine.args)) ++
        clausesText (engine.withSettings settings).clauses) :=
    String.toList_ofList
  obtain ⟨text, parsed, name, args, bodyOf⟩ :=
    EngineText.parse_of_distinct (isWord_of_isPlainName reads.name) argsBalanced bodies shape
      (nodup_clauses _)
  refine ⟨text, parsed, name.trans String.ofList_toList, ?_, ?_⟩
  · have trimmed : trim (itemsText engine.args) = itemsText engine.args :=
      trim_entries _ (items_entries reads)
    rw [args, Option.map_some, trimmed]
  · intro clause
    rw [bodyOf, lookup_clauses]
    cases found : (engine.withSettings settings).clauseBody? clause with
    | none => rfl
    | some body =>
        have spaced : trim (' ' :: body) = trim body :=
          trim_append_of_blank isBlank_space body
        rw [Option.map_some, Option.map_some, Option.map_some, spaced,
          (isBody_clauseBody? reads named found).2]

/-- The entries of the TTL clause read back. -/
theorem collect_ttl (reads : engine.ReadsBack table) :
    collect (Ttl.ofReport table) (splitOutside ',' engine.ttlText) =
      .ok (engine.ttl.map (Ttl.qualifiedBy table)) := by
  have split : splitOutside ',' engine.ttlText = engine.ttl.map Ttl.chars :=
    splitOutside_entries isBlank_newLine (ttl_entries reads)
  rw [split, collect_eq_ok_iff, List.map_map, List.map_map]
  apply List.map_congr_left
  intro entry member
  exact Ttl.ofReport_chars reads.columns (reads.ttl entry member)

/-- The settings read back from their texts. -/
theorem collect_settings (reads : engine.ReadsBack table) :
    collect settingOfReport (engine.settings.map settingText) = .ok engine.settings := by
  rw [collect_eq_ok_iff, List.map_map]
  apply List.map_congr_left
  intro setting member
  exact (reads.settings setting member).ofReport_text

/-- A slot of keys reads back. -/
theorem map_keyOfReport (columns : table.HasColumnNames) {slot : Option Key}
    (keys : HoldsItems table slot) :
    ((slot.map Key.text).map String.ofList).map (fun s => Key.ofReport table s.toList) =
      slot.map (List.map (Expr.qualifiedBy table)) := by
  cases slot with
  | none => rfl
  | some key =>
      have read := Key.ofReport_text columns (keys key rfl).2
      simpa using read

/-- The text of a list clause that is absent is the empty list. -/
theorem getD_clauseBody? : ((engine.clauseBody? .ttl).map String.ofList).getD "" =
      String.ofList engine.ttlText ∧
    ((engine.clauseBody? .settings).map String.ofList).getD "" =
      String.ofList engine.settingsChars := by
  constructor
  · cases found : engine.ttl with
    | nil => simp [clauseBody?, ttlText, found]
    | cons entry rest => simp [clauseBody?, found]
  · cases found : engine.settings with
    | nil => simp [clauseBody?, settingsChars, found]
    | cons setting rest => simp [clauseBody?, found]

/-- An engine with settings is read back with what its settings are read as. -/
theorem ofReport_withSettings (reads : engine.ReadsBack table) {settings : List Setting}
    (named : ∀ setting ∈ settings, isWord setting.1.toList = true) {read : List Setting}
    (collected : collect settingOfReport (settings.map settingText) = .ok read) :
    Engine.ofReport (engine.withSettings settings).report table =
      .ok ((engine.qualifiedBy table).withSettings read) := by
  obtain ⟨partitionBy, orderBy, primaryKey, sampleBy⟩ := reads.slots
  obtain ⟨text, parsed, name, args, bodyOf⟩ := parse_withSettings reads named
  have ttl : text.ttl.getD "" = String.ofList engine.ttlText :=
    (congrArg (·.getD "") (bodyOf .ttl)).trans getD_clauseBody?.1
  have texts : text.settings.getD "" =
      String.ofList (engine.withSettings settings).settingsChars :=
    (congrArg (·.getD "") (bodyOf .settings)).trans getD_clauseBody?.2
  have settingsRead : collect settingOfReport
      (splitOutside ',' (engine.withSettings settings).settingsChars) = .ok read := by
    have split : splitOutside ',' (engine.withSettings settings).settingsChars =
        settings.map settingText := splitOutside_settings named
    rw [split, collected]
  have argsRead : argsOfReport table text.args = engine.args.map (Expr.qualifiedBy table) := by
    rw [args, argsOfReport, String.toList_ofList, splitOutside_itemsText reads.columns reads.args]
    exact map_ofReport_items reads.columns reads.args
  have partitionText : text.partitionBy = _ := bodyOf .partitionBy
  have orderText : text.orderBy = _ := bodyOf .orderBy
  have primaryText : text.primaryKey = _ := bodyOf .primaryKey
  have sampleText : text.sampleBy = _ := bodyOf .sampleBy
  rw [Engine.ofReport, parsed]
  simp only [bind, Except.bind, Engine.ofText, ttl, texts, String.toList_ofList, collect_ttl reads,
    settingsRead]
  rw [argsRead, name, partitionText, orderText, primaryText, sampleText]
  simp only [clauseBody?, withSettings, map_keyOfReport reads.columns partitionBy,
    map_keyOfReport reads.columns orderBy, map_keyOfReport reads.columns primaryKey,
    map_keyOfReport reads.columns sampleBy]
  rfl

end Declaration

/-- An engine reads back from its declaration, with every column belonging to
the table. -/
theorem ofReport_declaration {table : Table} {engine : Engine} (reads : engine.ReadsBack table) :
    ∃ report, engine.declaration = .ok ("ENGINE = " ++ report) ∧
      Engine.ofReport report table = .ok (engine.qualifiedBy table) := by
  have read := ofReport_withSettings reads reads.named (collect_settings reads)
  exact ⟨engine.report, declaration_eq reads, read⟩

/-- A table with a column that needs quotes and one named like half a
keyword. -/
def eventTable : Table where
  name := "events"
  columns := [⟨"day", .scalar .date, none, none⟩, ⟨"tags.key", .scalar .uuid, none, none⟩,
    ⟨"ORDER", .scalar .date, none, none⟩]

/-- An engine whose texts hold commas, brackets and keywords. -/
def eventEngine : Engine where
  name := "MergeTree"
  args := [.column none "tags.key"]
  orderBy := some [.column (some "other") "day", .raw ("f" ++ "(" ++ "x TTL , [y, (z)]" ++ ")")]
  sampleBy := some [.raw ("g" ++ "(" ++ "" ++ ")")]
  ttl := [⟨.column none "ORDER", some (.toDisk "cold', TTL x")⟩, ⟨.column none "day", none⟩]
  settings := [("TTL", .string "a=1, ORDER BY b"), ("n", .int (-5)),
    ("m", .uint 18446744073709551615)]

/-- An engine with keywords inside its names, literals and calls reads back. -/
theorem ofReport_declaration_keywords_inside :
    eventEngine.ReadsBack eventTable ∧
      ∃ report, eventEngine.declaration = .ok ("ENGINE = " ++ report) ∧
        Engine.ofReport report eventTable = .ok (eventEngine.qualifiedBy eventTable) := by
  have column : ∀ {name : String}, eventTable.hasColumn name = true → ∀ qualifier,
      IsItem eventTable (.column qualifier name) := fun isThere qualifier =>
    .column qualifier isThere
  have reads : eventEngine.ReadsBack eventTable := by
    constructor
    · simp only [Table.HasColumnNames, eventTable, List.forall_mem_cons]
      exact ⟨⟨by decide, forall_mem_of_all (by decide), by decide, by decide⟩,
        ⟨by decide, forall_mem_of_all (by decide), by decide, by decide⟩,
        ⟨by decide, forall_mem_of_all (by decide), by decide, by decide⟩, by simp⟩
    · decide
    · simp only [eventEngine, List.forall_mem_cons]
      exact ⟨column rfl none, by simp⟩
    · simp only [eventEngine, List.forall_mem_cons, Option.mem_some_iff, forall_eq']
      exact ⟨by simp, ⟨by simp, column rfl _, .call rfl rfl (forall_mem_of_all (by decide)), by simp⟩, by simp,
        ⟨by simp, .call rfl rfl (forall_mem_of_all (by decide)), by simp⟩, by simp⟩
    · simp only [eventEngine, List.forall_mem_cons]
      refine ⟨⟨⟨none, "ORDER", rfl, rfl⟩, ?_⟩, ⟨⟨none, "day", rfl, rfl⟩, by simp⟩, by simp⟩
      rintro action given name target
      obtain rfl := Option.mem_some_iff.mp given
      obtain rfl := Option.mem_some_iff.mp target
      decide
    · simp only [eventEngine, List.forall_mem_cons]
      exact ⟨⟨by decide, .string _⟩, ⟨by decide, .int _⟩, ⟨by decide, .uint (by decide)⟩, by simp⟩
  exact ⟨reads, ofReport_declaration reads⟩

end Engine

end ColumnarSql
