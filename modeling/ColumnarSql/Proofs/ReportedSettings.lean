/-
Module: ColumnarSql.Proofs.ReportedSettings
Purpose: Which settings keep their text when an engine is declared, read back
  and declared again.  A truth value is written as a bare word, and a bare word
  is read as a string, which is written in quotes.
Main exports:
  Value.IsBasic, Value.reported, Value.ofReport_literal, reportedSetting,
  settingsText_reported_iff, Engine.declaration_qualifiedBy,
  Engine.declaration_settings_iff
-/
import ColumnarSql.Proofs.BareColumns
import ColumnarSql.Proofs.EngineRoundTrip

namespace ColumnarSql

open Text

/-! ### What the literal of a value is read as -/

namespace Value

/-- Truth values, integers and strings. -/
inductive IsBasic : Value → Prop where
  | bool (b : Bool) : IsBasic (.bool b)
  | int (n : Int64) : IsBasic (.int n)
  | uint (n : UInt64) : IsBasic (.uint n)
  | string (s : String) : IsBasic (.string s)

/-- What a basic value is read as: a truth value as a string, and an integer as
a signed one if it is small enough. -/
def reported : Value → Value
  | .bool b => .string (literal false (.bool b))
  | .uint n => if Int64.maxValue.toInt < n.toNat then .uint n else .int (Int64.ofInt n.toNat)
  | value => value

/-- A small unsigned integer is written like the signed one. -/
theorem literal_small_uint {n : UInt64} (small : ¬ Int64.maxValue.toInt < n.toNat) :
    literal false (.int (Int64.ofInt n.toNat)) = literal false (.uint n) := by
  rw [Int64.toInt_maxValue] at small
  have inRange : (Int64.ofInt n.toNat).toInt = n.toNat := by
    apply Int64.toInt_ofInt_of_le <;> omega
  rw [literal, literal, inRange]
  rfl

/-- A basic value is read from its literal as the value that is reported of
it. -/
theorem ofReport_literal {value : Value} (basic : value.IsBasic) :
    Value.ofReport (value.literal false).toList = value.reported := by
  cases basic with
  | bool b => cases b <;> rfl
  | int n => exact (ReadsBack.int n).ofReport_literal
  | uint n =>
      by_cases above : Int64.maxValue.toInt < n.toNat
      · rw [reported, if_pos above]
        exact (ReadsBack.uint above).ofReport_literal
      · rw [reported, if_neg above, ← literal_small_uint above]
        exact (ReadsBack.int _).ofReport_literal
  | string s => exact (ReadsBack.string s).ofReport_literal

/-- Only truth values get another text. -/
theorem literal_reported_iff {value : Value} (basic : value.IsBasic) :
    value.reported.literal false = value.literal false ↔ ∀ b, value ≠ .bool b := by
  cases basic with
  | bool b =>
      have quoted : (reported (.bool b)).literal false ≠ literal false (.bool b) := by
        cases b <;> decide
      exact iff_of_false quoted fun noBool => noBool b rfl
  | int n => exact iff_of_true rfl nofun
  | uint n =>
      refine iff_of_true ?_ nofun
      by_cases above : Int64.maxValue.toInt < n.toNat
      · rw [reported, if_pos above]
      · rw [reported, if_neg above, literal_small_uint above]
  | string s => exact iff_of_true rfl nofun

end Value

/-! ### Lists of settings -/

/-- Settings with a plain name and a basic value. -/
structure IsBasicSetting (setting : Setting) : Prop where
  name : isPlainName setting.1.toList = true
  value : setting.2.IsBasic

/-- What a setting is read as. -/
def reportedSetting (setting : Setting) : Setting :=
  (setting.1, setting.2.reported)

/-- The text of a setting is kept exactly if its value is not a truth value. -/
theorem settingText_reported_iff {setting : Setting} (basic : IsBasicSetting setting) :
    settingText (reportedSetting setting) = settingText setting ↔
      ∀ b, setting.2 ≠ .bool b := by
  rw [settingText, settingText, reportedSetting, List.append_cancel_left_eq, List.cons.injEq,
    String.toList_inj, Value.literal_reported_iff basic.value]
  exact and_iff_right rfl

section Settings

variable {settings : List Setting} (basic : ∀ setting ∈ settings, IsBasicSetting setting)

include basic

theorem named_of_basic : ∀ setting ∈ settings, isWord setting.1.toList = true :=
  fun setting member => Engine.isWord_of_isPlainName (basic setting member).name

/-- All settings are read from their texts. -/
theorem collect_settingTexts :
    collect settingOfReport (settings.map settingText) = .ok (settings.map reportedSetting) := by
  rw [collect_eq_ok_iff, List.map_map, List.map_map]
  apply List.map_congr_left
  intro setting member
  rw [Function.comp_apply, settingOfReport_settingText (named_of_basic basic setting member),
    Value.ofReport_literal (basic setting member).value]
  rfl

/-- Settings keep their text exactly if none of them is a truth value.  Cutting
the joined texts apart compares them one by one. -/
theorem settingsText_reported_iff :
    settingsText false (settings.map reportedSetting) = settingsText false settings ↔
      ∀ setting ∈ settings, ∀ b, setting.2 ≠ .bool b := by
  have named := named_of_basic basic
  have namedReported : ∀ setting ∈ settings.map reportedSetting,
      isWord setting.1.toList = true := by
    intro setting member
    obtain ⟨original, given, rfl⟩ := List.mem_map.mp member
    exact named original given
  rw [← String.toList_inj, Engine.toList_settingsText, Engine.toList_settingsText]
  constructor
  · intro same setting member
    have texts := congrArg (splitOutside ',') same
    rw [Engine.splitOutside_settings namedReported, Engine.splitOutside_settings named,
      List.map_map] at texts
    exact (settingText_reported_iff (basic setting member)).mp
      (List.map_inj_left.mp texts setting member)
  · intro noBools
    rw [List.map_map]
    congr 1
    apply List.map_congr_left
    intro setting member
    exact (settingText_reported_iff (basic setting member)).mpr (noBools setting member)

end Settings

/-! ### Engines with such settings -/

namespace Engine

variable {table : Table} {engine : Engine} {settings : List Setting}

/-- Settings stand at the end of a report behind their keyword. -/
theorem report_withSettings (engine : Engine) (nonempty : settings ≠ []) :
    (engine.withSettings settings).report =
      String.ofList engine.reportHead ++ " SETTINGS " ++ settingsText false settings := by
  have isThere : ¬ (engine.withSettings settings).settings.isEmpty = true := by
    rwa [List.isEmpty_iff]
  rw [← String.toList_inj, toList_report_withSettings, clauseChars, clauseBody?, if_neg isThere,
    String.toList_append, String.toList_append, String.toList_ofList, toList_settingsText,
    List.append_assoc]
  rfl

/-- Giving the columns a table and taking it away again changes nothing else. -/
theorem withoutTables_qualifiedBy (table : Table) (engine : Engine) :
    (engine.qualifiedBy table).withoutTables = engine.withoutTables := by
  have erased : ∀ e, (Expr.qualifiedBy table e).withoutTables = e.withoutTables := by
    intro e
    cases e <;> rfl
  have erasedTtl : ∀ entry, (Ttl.qualifiedBy table entry).withoutTables = entry.withoutTables := by
    intro entry
    rw [Ttl.withoutTables, Ttl.withoutTables, Ttl.qualifiedBy, erased]
  simp only [withoutTables, qualifiedBy, List.map_map, Option.map_map, Function.comp_def, erased,
    erasedTtl]

/-- A declaration does not show which table the columns belong to. -/
theorem declaration_qualifiedBy (table : Table) (engine : Engine) :
    (engine.qualifiedBy table).declaration = engine.declaration := by
  rw [← declaration_withoutTables, withoutTables_qualifiedBy, declaration_withoutTables]

/-- Declared, read back and declared again, an engine keeps all of its text but
the settings, and these keep theirs exactly if none of them is a truth value. -/
theorem declaration_settings_iff (reads : engine.ReadsBack table) (nonempty : settings ≠ [])
    (basic : ∀ setting ∈ settings, IsBasicSetting setting) :
    ∃ (head : String) (read : Engine),
      (engine.withSettings settings).declaration =
        .ok ("ENGINE = " ++ (head ++ " SETTINGS " ++ settingsText false settings)) ∧
      Engine.ofReport (head ++ " SETTINGS " ++ settingsText false settings) table = .ok read ∧
      read.settings = settings.map reportedSetting ∧
      read.declaration =
        .ok ("ENGINE = " ++ (head ++ " SETTINGS " ++ settingsText false read.settings)) ∧
      (settingsText false read.settings = settingsText false settings ↔
        ∀ setting ∈ settings, ∀ b, setting.2 ≠ .bool b) := by
  refine ⟨String.ofList engine.reportHead,
    (engine.withSettings (settings.map reportedSetting)).qualifiedBy table, ?_, ?_, rfl, ?_,
    settingsText_reported_iff basic⟩
  · rw [declaration_withSettings reads, report_withSettings engine nonempty]
  · rw [← report_withSettings engine nonempty]
    exact ofReport_withSettings reads (named_of_basic basic) (collect_settingTexts basic)
  · have nonemptyRead : settings.map reportedSetting ≠ [] := by
      rwa [Ne, List.map_eq_nil_iff]
    rw [declaration_qualifiedBy, declaration_withSettings reads,
      report_withSettings engine nonemptyRead]
    rfl

/-- An engine with a key that holds a keyword. -/
def keyedEngine : Engine where
  name := "MergeTree"
  orderBy := some [.raw ("f" ++ "(" ++ "x SETTINGS , [y]" ++ ")")]

/-- Settings whose texts hold commas, equals signs, quotes and keywords. -/
def delimiterSettings : List Setting :=
  [("TTL", .string "a=1, ORDER BY 'b'"), ("m", .uint 7), ("n", .int (-5))]

/-- Commas, equals signs, quotes and keywords in settings do no harm. -/
theorem declaration_settings_delimiters :
    keyedEngine.ReadsBack { name := "t", columns := [] } ∧
      (∀ setting ∈ delimiterSettings, IsBasicSetting setting) ∧
      ∃ (report : String) (read : Engine),
        (keyedEngine.withSettings delimiterSettings).declaration = .ok ("ENGINE = " ++ report) ∧
        Engine.ofReport report { name := "t", columns := [] } = .ok read ∧
        read.declaration = .ok ("ENGINE = " ++ report) := by
  have reads : keyedEngine.ReadsBack { name := "t", columns := [] } := by
    refine ⟨by simp [Table.HasColumnNames], by decide, by simp [keyedEngine], ?_,
      by simp [keyedEngine], by simp [keyedEngine]⟩
    simp only [keyedEngine, List.forall_mem_cons, Option.mem_some_iff, forall_eq']
    exact ⟨by simp, ⟨by simp, .call rfl rfl (forall_mem_of_all (by decide)), by simp⟩, by simp,
      by simp, by simp⟩
  have basic : ∀ setting ∈ delimiterSettings, IsBasicSetting setting := by
    simp only [delimiterSettings, List.forall_mem_cons]
    exact ⟨⟨by decide, .string _⟩, ⟨by decide, .uint _⟩, ⟨by decide, .int _⟩, by simp⟩
  obtain ⟨head, read, declared, isRead, _, again, keeps⟩ :=
    declaration_settings_iff reads (by simp [delimiterSettings]) basic
  have same := keeps.mpr (by simp [delimiterSettings])
  rw [same] at again
  exact ⟨reads, basic, _, read, declared, isRead, again⟩

/-- A truth value comes back as a string and is then written in quotes. -/
theorem declaration_settings_truth :
    let engine : Engine := { name := "MergeTree", settings := [("a", .bool true)] }
    let read : Engine := { name := "MergeTree", settings := [("a", .string "true")] }
    engine.declaration = .ok "ENGINE = MergeTree() SETTINGS a=true" ∧
      Engine.ofReport "MergeTree() SETTINGS a=true" { name := "t", columns := [] } = .ok read ∧
      read.declaration = .ok "ENGINE = MergeTree() SETTINGS a='true'" := by
  exact ⟨rfl, rfl, rfl⟩

end Engine

end ColumnarSql
