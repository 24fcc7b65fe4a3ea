/-
Module: ColumnarSql.Proofs.ClauseEntries
Purpose: The entries of a clause: texts that hide no keyword and come apart
  again at the commas between them.
Main exports:
  Compact, EngineClause.at?_word, EngineClause.Follows, Passes, IsEntry,
  IsEntry.of_compact, isBody_entries, splitOutside_entries, trim_entries
-/
import ColumnarSql.Proofs.ClauseSearch

namespace ColumnarSql

open Text

/-! ### Compact texts -/

/-- Neither a blank nor a comma stands outside brackets and quotes. -/
def Compact (s : List Char) : Prop :=
  Nested (fun c => isBlank c = false ∧ c ≠ ',') 0 s

namespace Compact

variable {s t : List Char}

/-- A compact text has no comma outside brackets and quotes. -/
theorem noComma (compact : Compact s) : Nested (· ≠ ',') 0 s :=
  compact.mono fun _ outer => outer.2

/-- A compact text has no blank outside brackets and quotes. -/
theorem solid (compact : Compact s) : Nested (fun c => isBlank c = false) 0 s :=
  compact.mono fun _ outer => outer.1

theorem balanced (compact : Compact s) : Balanced s :=
  Nested.balanced compact

/-- Two compact texts in a row are compact. -/
theorem append (first : Compact s) (second : Compact t) : Compact (s ++ t) :=
  Nested.concat first second

/-- A word is compact. -/
theorem of_word (inWord : ∀ c ∈ s, isWordChar c = true) : Compact s := by
  refine .of_plain (fun c member => plain_of_isWordChar (inWord c member)) ?_
  intro c member
  refine ⟨isBlank_of_isWordChar (inWord c member), ?_⟩
  rintro rfl
  cases inWord _ member

/-- A compact text has no blanks at its ends to trim. -/
theorem trim_eq (compact : Compact s) : trim s = s :=
  compact.solid.trim_eq

end Compact

/-! ### Words that are no keywords -/

namespace EngineClause

/-- Keywords consist of word characters and blanks. -/
theorem keyword_chars (clause : EngineClause) :
    ∀ c ∈ clause.keyword, isWordChar c = true ∨ isBlank c = true := by
  apply forall_mem_of_all
  cases clause <;> decide

/-- A word by itself is a keyword only if it is one of the two keywords of one
word. -/
theorem at?_word {word : List Char} (inWord : ∀ c ∈ word, isWordChar c = true)
    (notTtl : word ≠ keyword .ttl) (notSettings : word ≠ keyword .settings) :
    at? word = none := by
  rw [at?_eq_none_iff]
  intro clause
  by_contra starts
  obtain ⟨after, rfl, blank⟩ := startsAt_iff.mp (by simpa using starts)
  have whole : after = [] := by
    cases after with
    | nil => rfl
    | cons c tail =>
        have noBlank := isBlank_of_isWordChar (inWord c (by simp))
        rw [blank c (by simp)] at noBlank
        cases noBlank
  rw [whole, List.append_nil] at inWord notTtl notSettings
  have noSpace : ' ' ∉ clause.keyword := by
    intro member
    cases inWord ' ' member
  revert notTtl notSettings noSpace
  cases clause <;> decide

/-- A word with a mark behind it is no keyword. -/
theorem at?_word_mark {word : List Char} (inWord : ∀ c ∈ word, isWordChar c = true) {mark : Char}
    (noWord : isWordChar mark = false) (noBlank : isBlank mark = false) (rest : List Char) :
    at? (word ++ mark :: rest) = none := by
  rw [at?_eq_none_iff]
  intro clause
  by_contra starts
  obtain ⟨after, same, blank⟩ := startsAt_iff.mp (by simpa using starts)
  have notFirst : ∀ c ∈ after.head?, c ≠ mark := by
    rintro c first rfl
    rw [blank c first] at noBlank
    cases noBlank
  rcases List.append_eq_append_iff.mp same with ⟨more, spelled, behind⟩ | ⟨more, rfl, rfl⟩
  · cases more with
    | nil =>
        rw [List.nil_append] at behind
        exact notFirst mark (by simp [← behind]) rfl
    | cons c more =>
        obtain ⟨rfl, _⟩ := List.cons.inj behind
        rcases clause.keyword_chars mark (by simp [spelled]) with inWord' | isBlank
        · rw [noWord] at inWord'
          cases inWord'
        · rw [noBlank] at isBlank
          cases isBlank
  · cases more with
    | nil => exact notFirst mark (by simp) rfl
    | cons c more =>
        have noBlank' := isBlank_of_isWordChar (inWord c (by simp))
        rw [blank c (by simp)] at noBlank'
        cases noBlank'

/-- What may follow a word so that the two form no keyword: a text that breaks,
or a mark. -/
def Follows (rest : List Char) : Prop :=
  Breaks rest ∨ ∃ mark tail, rest = mark :: tail ∧ isWordChar mark = false ∧ isBlank mark = false

/-- A word that is no keyword stays none before whatever may follow it. -/
theorem at?_word_follows {word rest : List Char} (inWord : ∀ c ∈ word, isWordChar c = true)
    (ordinary : at? word = none) (follows : Follows rest) : at? (word ++ rest) = none := by
  rcases follows with breaks | ⟨mark, tail, rfl, noWord, noBlank⟩
  · rw [at?_append breaks, ordinary]
  · exact at?_word_mark inWord noWord noBlank tail

theorem follows_of_comma {rest : List Char} (comma : ∀ c ∈ rest.head?, c = ',') :
    Follows rest := by
  cases rest with
  | nil => exact .inl breaks_nil
  | cons c tail =>
      obtain rfl := comma c rfl
      exact .inr ⟨',', tail, rfl, rfl, rfl⟩

end EngineClause

/-! ### Texts that the search passes -/

/-- The search finds nothing in a text that `rest` follows, and is not behind a
blank then. -/
def Passes (s rest : List Char) : Prop :=
  ∀ (place : Nat) (afterBlank : Bool),
    locateFrom place ⟨0, none, false⟩ afterBlank 0 (s ++ rest) =
      locateFrom (place + s.length) ⟨0, none, false⟩ false 0 rest

namespace Passes

variable {s t rest : List Char}

/-- What the search passes part by part it passes as a whole. -/
theorem append (first : Passes s (t ++ rest)) (second : Passes t rest) :
    Passes (s ++ t) rest := by
  intro place afterBlank
  rw [List.append_assoc, first, second, List.length_append, Nat.add_assoc]

/-- A blank in front of a text that the search passes is passed with it. -/
theorem spaced (passes : Passes s rest) : Passes (' ' :: s) rest := by
  intro place afterBlank
  rw [List.cons_append, locateFrom_blank rfl, passes, List.length_cons]
  congr 1
  omega

/-- A solid text that does not start with a keyword. -/
theorem of_solid (solid : Nested (fun c => isBlank c = false) 0 s) (nonempty : s ≠ [])
    (ordinary : EngineClause.at? (s ++ rest) = none) : Passes s rest := by
  intro place afterBlank
  cases solid with
  | nil => exact absurd rfl nonempty
  | plain noQuote noOpening noClosing outer solid =>
      rw [List.cons_append] at ordinary ⊢
      rw [locateFrom_plain ⟨noQuote, noOpening, noClosing⟩ (fun _ _ => ordinary),
        locateFrom_solid solid outer, List.length_cons]
      congr 1
      omega
  | opened opening solid =>
      rw [List.cons_append, locateFrom_opening opening,
        locateFrom_solid solid (fun _ => rfl), List.length_cons]
      congr 1
      omega
  | quoted isQuote body solid =>
      rw [List.cons_append, List.append_assoc, List.cons_append, locateFrom_quoted isQuote body,
        locateFrom_solid solid (fun _ => rfl), List.length_cons, List.length_append,
        List.length_cons]
      congr 1
      omega

/-- The search passes a word that is no keyword, wherever it may start. -/
theorem of_word (inWord : ∀ c ∈ s, isWordChar c = true) (nonempty : s ≠ [])
    (ordinary : EngineClause.at? s = none) (follows : EngineClause.Follows rest) :
    Passes s rest :=
  of_solid (Compact.of_word inWord).solid nonempty
    (EngineClause.at?_word_follows inWord ordinary follows)

end Passes

/-! ### Entries with commas between them -/

/-- An entry of a clause: it holds no comma outside brackets and quotes, no
blanks at its ends, and no keyword where a comma or nothing follows. -/
structure IsEntry (s : List Char) : Prop where
  noComma : Nested (· ≠ ',') 0 s
  nonempty : s ≠ []
  trimmed : trim s = s
  passes : ∀ rest : List Char, (∀ c ∈ rest.head?, c = ',') → Passes s rest

/-- A compact text that starts with no keyword is an entry of a clause. -/
theorem IsEntry.of_compact {s : List Char} (compact : Compact s) (nonempty : s ≠ [])
    (ordinary : ∀ rest, (∀ c ∈ rest.head?, c = ',') → EngineClause.at? (s ++ rest) = none) :
    IsEntry s where
  noComma := compact.noComma
  nonempty := nonempty
  trimmed := compact.trim_eq
  passes rest comma := .of_solid compact.solid nonempty (ordinary rest comma)

/-- The blank between the entries of most lists. -/
theorem isBlank_space : ∀ c ∈ [' '], isBlank c = true :=
  forall_mem_of_all (by decide)

section Entries

variable {gap : List Char} (blank : ∀ c ∈ gap, isBlank c = true) {entries : List (List Char)}
  (areEntries : ∀ s ∈ entries, IsEntry s)

include blank

/-- The gap between two entries holds no keyword. -/
theorem locateFrom_gap (place : Nat) (afterBlank : Bool) (rest : List Char) :
    ∃ afterBlank', locateFrom place ⟨0, none, false⟩ afterBlank 0 (gap ++ rest) =
      locateFrom (place + gap.length) ⟨0, none, false⟩ afterBlank' 0 rest := by
  induction gap generalizing place afterBlank with
  | nil => exact ⟨afterBlank, rfl⟩
  | cons c gap inductionHypothesis =>
      have later : ∀ d ∈ gap, isBlank d = true := fun d member => blank d (by simp [member])
      obtain ⟨afterBlank', same⟩ := inductionHypothesis later (place + 1) true
      refine ⟨afterBlank', ?_⟩
      rw [List.cons_append, locateFrom_blank (blank c (by simp)), same, List.length_cons]
      congr 1
      omega

include areEntries

/-- The search finds no keyword in a list of entries. -/
theorem locateFrom_entries (place : Nat) (afterBlank : Bool) :
    locateFrom place ⟨0, none, false⟩ afterBlank 0 (List.intercalate (',' :: gap) entries) = [] := by
  induction entries generalizing place afterBlank with
  | nil => rfl
  | cons s entries inductionHypothesis =>
      have later := inductionHypothesis fun s member => areEntries s (List.mem_cons_of_mem _ member)
      have passes := (areEntries s (by simp)).passes
      cases entries with
      | nil =>
          have last := passes [] (by simp) place afterBlank
          rw [List.append_nil] at last
          rw [List.intercalate_singleton, last]
          rfl
      | cons next entries =>
          rw [List.intercalate_cons_cons, List.append_assoc, passes _ (by simp), List.cons_append,
            locateFrom_plain (c := ',') ⟨rfl, rfl, rfl⟩
              (fun _ _ => EngineClause.at?_of_not_word rfl _)]
          obtain ⟨afterBlank', same⟩ := locateFrom_gap blank (place + s.length + 1) (isBlank ',')
            (List.intercalate (',' :: gap) (next :: entries))
          rw [same]
          exact later _ _

/-- Entries with commas and blanks between them are the body of a clause. -/
theorem isBody_entries : IsBody (List.intercalate (',' :: gap) entries) := by
  have balanced : Balanced (List.intercalate (',' :: gap) entries) :=
    balanced_joined blank fun s member => (areEntries s member).noComma.balanced
  exact ⟨balanced, (locateClauses_eq_nil_iff balanced).mp
    (locateFrom_entries blank areEntries 0 true)⟩

/-- A list of entries comes apart at its commas into the entries. -/
theorem splitOutside_entries :
    splitOutside ',' (List.intercalate (',' :: gap) entries) = entries :=
  splitOutside_joined blank (fun s member => (areEntries s member).noComma)
    fun s member => ⟨(areEntries s member).nonempty, (areEntries s member).trimmed⟩

end Entries

/-! ### The ends of a list of entries -/

/-- Joined texts start with the first of them. -/
theorem exists_intercalate_eq (separator entry : List Char) (entries : List (List Char)) :
    ∃ more, List.intercalate separator (entry :: entries) = entry ++ more := by
  cases entries with
  | nil => exact ⟨[], by rw [List.intercalate_singleton, List.append_nil]⟩
  | cons next entries => exact ⟨_, by rw [List.intercalate_cons_cons, List.append_assoc]⟩

/-- A list of entries ends in no blank, because its last entry does not. -/
theorem isBlank_getLast_entries (separator : List Char) {entries : List (List Char)}
    (areEntries : ∀ s ∈ entries, IsEntry s) :
    ∀ c ∈ (List.intercalate separator entries).getLast?, isBlank c = false := by
  induction entries with
  | nil => simp
  | cons s entries inductionHypothesis =>
      have later := inductionHypothesis fun s member => areEntries s (List.mem_cons_of_mem _ member)
      cases entries with
      | nil =>
          rw [List.intercalate_singleton, ← (areEntries s (by simp)).trimmed]
          exact isBlank_getLast_trim
      | cons next entries =>
          have nonempty : List.intercalate separator (next :: entries) ≠ [] := by
            obtain ⟨more, split⟩ := exists_intercalate_eq separator next entries
            rw [split]
            exact List.append_ne_nil_of_left_ne_nil (areEntries next (by simp)).nonempty more
          rw [List.intercalate_cons_cons, List.getLast?_append_of_ne_nil _ nonempty]
          exact later

/-- No blank stands at the ends of a list of entries. -/
theorem trim_entries (separator : List Char) {entries : List (List Char)}
    (areEntries : ∀ s ∈ entries, IsEntry s) :
    trim (List.intercalate separator entries) = List.intercalate separator entries := by
  apply trim_eq_self _ (isBlank_getLast_entries separator areEntries)
  cases entries with
  | nil => simp
  | cons entry entries =>
      have isEntry := areEntries entry (by simp)
      obtain ⟨more, split⟩ := exists_intercalate_eq separator entry entries
      rw [split, List.head?_append_of_ne_nil _ isEntry.nonempty, ← isEntry.trimmed]
      exact isBlank_head_trim

end ColumnarSql
