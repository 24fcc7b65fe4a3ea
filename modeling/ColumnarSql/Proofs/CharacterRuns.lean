/-
Module: ColumnarSql.Proofs.CharacterRuns
Purpose: Maximal runs of characters of one class, and what trimming leaves.
Main exports:
  toList_joinWith, takeWhile_run, dropWhile_run, trim_eq_nil_iff, isBlank_head_trim,
  isBlank_getLast_trim, trim_eq_self, isBlank_getLast_append,
  trim_append_of_blank, trim_append_gap
-/
import ColumnarSql.Text.Blank
import Mathlib.Data.List.DropRight
import Mathlib.Data.List.TakeWhile

namespace ColumnarSql.Text

/-! ### Classes of characters -/

/-- Spacing is never part of a word. -/
theorem isWordChar_of_isSpacing {c : Char} (spacing : isSpacing c = true) :
    isWordChar c = false := by
  simp only [isSpacing, Bool.or_eq_true, beq_iff_eq] at spacing
  rcases spacing with ((rfl | rfl) | rfl) | rfl <;> decide

theorem isSpacing_of_isWordChar {c : Char} (inWord : isWordChar c = true) :
    isSpacing c = false := by
  by_contra spacing
  rw [Bool.not_eq_false] at spacing
  rw [isWordChar_of_isSpacing spacing] at inWord
  cases inWord

/-- A digit may be part of a word. -/
theorem isWordChar_of_isDigit {c : Char} (digit : c.isDigit = true) : isWordChar c = true := by
  simp [isWordChar, Char.isAlphanum, digit]

/-- No character of a word is blank. -/
theorem isBlank_of_isWordChar {c : Char} (inWord : isWordChar c = true) : isBlank c = false := by
  -- ASCII letters, digits and the underscore lie between the digit zero and the letter z.
  have classes : isWordChar c =
      ((decide ('A'.val ≤ c.val ∧ c.val ≤ 'Z'.val) || ('a'.val ≤ c.val && c.val ≤ 'z'.val) ||
        ('0'.val ≤ c.val && c.val ≤ '9'.val)) || c == '_') := rfl
  have ascii : 48 ≤ c.val.toNat ∧ c.val.toNat ≤ 122 := by
    simp only [classes, Bool.or_eq_true, Bool.and_eq_true, decide_eq_true_eq, beq_iff_eq,
      UInt32.le_iff_toNat_le, Char.reduceVal, UInt32.reduceToNat] at inWord
    rcases inWord with ((upper | lower) | digit) | rfl
    · omega
    · omega
    · omega
    · decide
  simp only [isBlank, Char.toNat, Bool.or_eq_false_iff, Bool.and_eq_false_iff,
    decide_eq_false_iff_not, beq_eq_false_iff_ne]
  omega

theorem isWordChar_of_isBlank {c : Char} (blank : isBlank c = true) : isWordChar c = false := by
  by_contra inWord
  rw [Bool.not_eq_false] at inWord
  rw [isBlank_of_isWordChar inWord] at blank
  cases blank

/-! ### Facts about the characters of a fixed text -/

/-- Each character of the text is tested, so nothing has to be decided about
all characters. -/
theorem forall_mem_of_all {Property : Char → Prop} [DecidablePred Property] {s : List Char}
    (holds : s.all (Property ·) = true) : ∀ c ∈ s, Property c := by
  intro c member
  exact of_decide_eq_true (List.all_eq_true.mp holds c member)

theorem forall_mem_of_all? {Property : Char → Prop} [DecidablePred Property] {c? : Option Char}
    (holds : c?.all (Property ·) = true) : ∀ c ∈ c?, Property c := by
  intro c member
  rw [Option.mem_def.mp member] at holds
  exact of_decide_eq_true holds

/-! ### Joined texts -/

/-- The characters of joined strings are the joined characters. -/
theorem toList_joinWith (separator : String) :
    ∀ strings : List String, (joinWith separator strings).toList =
      List.intercalate separator.toList (strings.map String.toList)
  | [] => rfl
  | [s] => by simp [joinWith]
  | s :: next :: rest => by
      simp only [joinWith, String.toList_append, toList_joinWith separator (next :: rest),
        List.map_cons, List.intercalate_cons_cons]

/-! ### Maximal runs -/

/-- A run is taken as a whole where something else follows it. -/
theorem takeWhile_run {p : Char → Bool} {run rest : List Char} (inside : ∀ c ∈ run, p c = true)
    (stops : ∀ c ∈ rest.head?, p c = false) : (run ++ rest).takeWhile p = run := by
  rw [List.takeWhile_append_of_pos inside]
  cases rest with
  | nil => simp
  | cons c tail => simp [stops c (by simp)]

/-- What is left behind a run starts where the run stops. -/
theorem dropWhile_run {p : Char → Bool} {run rest : List Char} (inside : ∀ c ∈ run, p c = true)
    (stops : ∀ c ∈ rest.head?, p c = false) : (run ++ rest).dropWhile p = rest := by
  rw [List.dropWhile_append_of_pos inside]
  cases rest with
  | nil => rfl
  | cons c tail => simp [stops c (by simp)]

/-! ### Trimming -/

/-- Trimming drops the blanks at the front, then those at the back. -/
theorem trim_eq_rdropWhile (s : List Char) :
    trim s = (s.dropWhile isBlank).rdropWhile isBlank := rfl

theorem isBlank_head_dropWhile {s : List Char} :
    ∀ c ∈ (s.dropWhile isBlank).head?, isBlank c = false := by
  intro c first
  have stops := List.head?_dropWhile_not isBlank s
  rw [Option.mem_def] at first
  rw [first] at stops
  simpa using stops

/-- Only blank texts are trimmed to nothing. -/
theorem trim_eq_nil_iff {s : List Char} : trim s = [] ↔ ∀ c ∈ s, isBlank c = true := by
  rw [trim_eq_rdropWhile, List.rdropWhile_eq_nil_iff, ← List.dropWhile_eq_nil_iff,
    List.dropWhile_idempotent, List.dropWhile_eq_nil_iff]

/-- Nothing blank stands at the start of a trimmed text. -/
theorem isBlank_head_trim {s : List Char} : ∀ c ∈ (trim s).head?, isBlank c = false := by
  intro c first
  obtain ⟨tail, kept⟩ := List.rdropWhile_prefix isBlank (s.dropWhile isBlank)
  rw [← trim_eq_rdropWhile] at kept
  apply isBlank_head_dropWhile (s := s) c
  rw [← kept, List.head?_append_of_ne_nil]
  · exact first
  · intro nothing
    simp [nothing] at first

/-- Nothing blank stands at the end of a trimmed text. -/
theorem isBlank_getLast_trim {s : List Char} : ∀ c ∈ (trim s).getLast?, isBlank c = false := by
  intro c last
  obtain ⟨nonempty, same⟩ := List.mem_getLast?_eq_getLast last
  have stops := List.rdropWhile_last_not isBlank (s.dropWhile isBlank) nonempty
  rw [same]
  simpa [trim_eq_rdropWhile] using stops

/-- A text without blanks at its ends is trimmed already. -/
theorem trim_eq_self {s : List Char} (starts : ∀ c ∈ s.head?, isBlank c = false)
    (ends : ∀ c ∈ s.getLast?, isBlank c = false) : trim s = s := by
  have keepsStart : s.dropWhile isBlank = s := by
    cases s with
    | nil => rfl
    | cons c rest => simp [starts c (by simp)]
  rw [trim_eq_rdropWhile, keepsStart, List.rdropWhile_eq_self_iff]
  intro nonempty
  simp [ends _ (List.getLast_mem_getLast? nonempty)]

/-- Two texts in a row end in no blank if neither of them does. -/
theorem isBlank_getLast_append {s t : List Char} (first : ∀ c ∈ s.getLast?, isBlank c = false)
    (second : ∀ c ∈ t.getLast?, isBlank c = false) :
    ∀ c ∈ (s ++ t).getLast?, isBlank c = false := by
  intro c last
  rw [List.getLast?_append, Option.mem_def, Option.or_eq_some_iff] at last
  rcases last with inSecond | ⟨_, inFirst⟩
  · exact second c inSecond
  · exact first c inFirst

/-- Blanks before a text are trimmed away. -/
theorem trim_append_of_blank {gap : List Char} (blank : ∀ c ∈ gap, isBlank c = true)
    (s : List Char) : trim (gap ++ s) = trim s := by
  rw [trim_eq_rdropWhile, List.dropWhile_append_of_pos blank, trim_eq_rdropWhile]

/-- Blanks that are added at the back are dropped again. -/
theorem rdropWhile_append_gap {gap : List Char} (blank : ∀ c ∈ gap, isBlank c = true)
    (s : List Char) : (s ++ gap).rdropWhile isBlank = s.rdropWhile isBlank := by
  rw [List.rdropWhile, List.reverse_append, List.dropWhile_append_of_pos, List.rdropWhile]
  simpa using blank

/-- Blanks behind a text are trimmed away. -/
theorem trim_append_gap {gap : List Char} (blank : ∀ c ∈ gap, isBlank c = true)
    (s : List Char) : trim (s ++ gap) = trim s := by
  by_cases blankText : ∀ c ∈ s, isBlank c = true
  · have allBlank : ∀ c ∈ s ++ gap, isBlank c = true := by
      intro c member
      rcases List.mem_append.mp member with inText | inGap
      · exact blankText c inText
      · exact blank c inGap
    rw [trim_eq_nil_iff.mpr allBlank, trim_eq_nil_iff.mpr blankText]
  · have more : (s.dropWhile isBlank).isEmpty = false := by
      rw [List.isEmpty_eq_false_iff, ne_eq, List.dropWhile_eq_nil_iff]
      exact blankText
    rw [trim_eq_rdropWhile, List.dropWhile_append, more, if_neg (by simp),
      rdropWhile_append_gap blank, trim_eq_rdropWhile]

end ColumnarSql.Text
