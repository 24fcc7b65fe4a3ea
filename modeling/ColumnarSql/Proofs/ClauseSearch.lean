/-
Module: ColumnarSql.Proofs.ClauseSearch
Purpose: The search for keywords finds those that stand outside brackets and
  quotes, between blanks or the ends of the text, and no others.
Main exports:
  EngineClause.at?_eq_some_iff, EngineClause.Breaks, locateFrom_keyword,
  locateFrom_solid, ClauseFree, locateClauses_eq_nil_iff, IsBody,
  locateFrom_append, locateFrom_append_blank
-/
import ColumnarSql.Proofs.NestedText
import ColumnarSql.Table.EngineText
import Mathlib.Data.List.Infix

namespace ColumnarSql

open Text

/-! ### Passing over a word -/

/-- The rest of a keyword is skipped character by character. -/
theorem locateFrom_skip (place : Nat) (n : Nesting) (afterBlank : Bool) (word rest : List Char) :
    locateFrom place n afterBlank word.length (word ++ rest) =
      locateFrom (place + word.length) n afterBlank 0 rest := by
  induction word generalizing place with
  | nil => rfl
  | cons c word inductionHypothesis =>
      simp only [List.length_cons, List.cons_append, locateFrom, Nat.zero_lt_succ, if_true,
        Nat.add_sub_cancel, inductionHypothesis]
      congr 1
      omega

/-! ### Keywords -/

/-- A start can be dropped exactly from the texts that start with it. -/
theorem dropStart?_eq_some_iff {start s rest : List Char} :
    dropStart? start s = some rest ↔ s = start ++ rest := by
  induction start generalizing s with
  | nil => simp [dropStart?]
  | cons p start inductionHypothesis =>
      cases s with
      | nil => simp [dropStart?]
      | cons c s =>
          by_cases same : p = c
          · simp [dropStart?, same, inductionHypothesis]
          · simp [dropStart?, same, Ne.symm same]

namespace EngineClause

/-- Every keyword starts with a word character. -/
theorem keyword_eq_cons (clause : EngineClause) :
    ∃ c tail, clause.keyword = c :: tail ∧ isWordChar c = true := by
  cases clause <;> exact ⟨_, _, rfl, rfl⟩

/-- No keyword is the start of another one. -/
theorem eq_of_keyword_starts {a b : EngineClause} (starts : a.keyword <+: b.keyword) : a = b := by
  revert starts
  cases a <;> cases b <;> decide

/-- The one blank inside a keyword stands before the word BY or KEY. -/
theorem keyword_blank {clause : EngineClause} {s tail : List Char} {c : Char}
    (inside : clause.keyword = s ++ c :: tail) (blank : isBlank c = true) :
    tail.head? = some 'B' ∨ tail.head? = some 'K' := by
  have blanks : ∀ t ∈ clause.keyword.tails, t.head?.any isBlank = true →
      t.tail.head? = some 'B' ∨ t.tail.head? = some 'K' := by
    cases clause <;> decide
  have isTail : c :: tail ∈ clause.keyword.tails := by
    rw [List.mem_tails, inside]
    exact List.suffix_append s (c :: tail)
  exact blanks (c :: tail) isTail blank

/-- No keyword starts like BY or KEY, the second words of keywords. -/
theorem head?_keyword (clause : EngineClause) :
    clause.keyword.head? ≠ some 'B' ∧ clause.keyword.head? ≠ some 'K' := by
  cases clause <;> decide

theorem isBlank_getLast_keyword (clause : EngineClause) :
    ∀ c ∈ clause.keyword.getLast?, isBlank c = false := by
  apply forall_mem_of_all?
  cases clause <;> decide

/-- A text starts with a keyword if a blank or nothing follows it there. -/
theorem startsAt_iff {clause : EngineClause} {s : List Char} :
    clause.startsAt s = true ↔
      ∃ after, s = clause.keyword ++ after ∧ ∀ c ∈ after.head?, isBlank c = true := by
  simp only [← dropStart?_eq_some_iff]
  cases found : dropStart? clause.keyword s with
  | none => simp [startsAt, found]
  | some after => cases after <;> simp [startsAt, found]

theorem startsAt_of_at? {clause : EngineClause} {s : List Char} (found : at? s = some clause) :
    clause.startsAt s = true := by
  simp only [at?] at found
  have starts := List.find?_some found
  exact starts

/-- The keyword found is the one that the text starts with, since there is one
at most. -/
theorem at?_eq_some_iff {clause : EngineClause} {s : List Char} :
    at? s = some clause ↔ clause.startsAt s = true := by
  constructor
  · exact startsAt_of_at?
  · intro starts
    have member : clause ∈ all := by cases clause <;> decide
    cases found : at? s with
    | none => exact absurd starts (List.find?_eq_none.mp found clause member)
    | some other =>
        obtain ⟨after, same, _⟩ := startsAt_iff.mp starts
        obtain ⟨after', same', _⟩ := startsAt_iff.mp (startsAt_of_at? found)
        have shorter := List.prefix_or_prefix_of_prefix ⟨after, same.symm⟩ ⟨after', same'.symm⟩
        rcases shorter with starts | starts
        · rw [eq_of_keyword_starts starts]
        · rw [eq_of_keyword_starts starts]

/-- None is found exactly if the text starts with none. -/
theorem at?_eq_none_iff {s : List Char} :
    at? s = none ↔ ∀ clause : EngineClause, clause.startsAt s = false := by
  constructor
  · intro nothing clause
    by_contra starts
    rw [at?_eq_some_iff.mpr (by simpa using starts)] at nothing
    cases nothing
  · intro nowhere
    simp [at?, nowhere]

/-- A keyword starts with a letter. -/
theorem at?_of_not_word {c : Char} (noWord : isWordChar c = false) (rest : List Char) :
    at? (c :: rest) = none := by
  rw [at?_eq_none_iff]
  intro clause
  by_contra starts
  obtain ⟨after, same, _⟩ := startsAt_iff.mp (by simpa using starts)
  obtain ⟨d, tail, spelled, inWord⟩ := clause.keyword_eq_cons
  rw [spelled, List.cons_append, List.cons.injEq] at same
  rw [same.1, inWord] at noWord
  cases noWord

/-- No keyword extends into a text: it starts with a blank, and neither BY nor
KEY follows. -/
def Breaks (rest : List Char) : Prop :=
  ∀ c tail, rest = c :: tail →
    isBlank c = true ∧ tail.head? ≠ some 'B' ∧ tail.head? ≠ some 'K'

/-- What follows a text that breaks off cannot complete a keyword in it. -/
theorem at?_append {rest : List Char} (breaks : Breaks rest) (s : List Char) :
    at? (s ++ rest) = at? s := by
  have same : ∀ clause : EngineClause, clause.startsAt (s ++ rest) = clause.startsAt s := by
    intro clause
    rw [Bool.eq_iff_iff, startsAt_iff, startsAt_iff]
    constructor
    · rintro ⟨after, same, blank⟩
      rcases List.append_eq_append_iff.mp same with ⟨more, spelled, continues⟩ | ⟨more, rfl, rfl⟩
      · cases more with
        | nil => exact ⟨[], by simpa using spelled.symm, by simp⟩
        | cons c more =>
            obtain ⟨isBlank, noB, noK⟩ := breaks c (more ++ after) continues
            rcases keyword_blank spelled isBlank with isB | isK
            · exact absurd (by simp [List.head?_append, isB]) noB
            · exact absurd (by simp [List.head?_append, isK]) noK
      · refine ⟨more, rfl, ?_⟩
        intro c first
        apply blank c
        simp [List.head?_append, Option.mem_def.mp first]
    · rintro ⟨after, rfl, blank⟩
      refine ⟨after ++ rest, by simp, ?_⟩
      intro c first
      cases after with
      | nil =>
          obtain ⟨tail, rfl⟩ := List.head?_eq_some_iff.mp first
          exact (breaks c tail rfl).1
      | cons d after => exact blank c (by simpa using first)
  simp only [at?, same]

theorem breaks_nil : Breaks [] := by
  intro c tail same
  cases same

/-- A blank and a keyword behind it complete no earlier keyword. -/
theorem breaks_keyword (clause : EngineClause) (rest : List Char) :
    Breaks (' ' :: (clause.keyword ++ rest)) := by
  intro c tail same
  obtain ⟨rfl, rfl⟩ := List.cons.inj same
  obtain ⟨d, more, spelled, _⟩ := clause.keyword_eq_cons
  refine ⟨rfl, ?_⟩
  have first := clause.head?_keyword
  rw [spelled] at first ⊢
  exact first

end EngineClause

/-! ### The steps of the search

One step for each way in which a text goes on: a plain character, a bracket, a
quoted part, a keyword.  Behind everything but a blank no keyword may start. -/

/-- A character that is neither quote nor bracket, and starts no keyword, is
passed over. -/
theorem locateFrom_plain {place depth : Nat} {afterBlank : Bool} {c : Char} {rest : List Char}
    (plain : Nesting.isQuote c = false ∧ isOpening c = false ∧ isClosing c = false)
    (noKeyword : depth = 0 → afterBlank = true → EngineClause.at? (c :: rest) = none) :
    locateFrom place ⟨depth, none, false⟩ afterBlank 0 (c :: rest) =
      locateFrom (place + 1) ⟨depth, none, false⟩ (isBlank c) 0 rest := by
  obtain ⟨noQuote, noOpening, noClosing⟩ := plain
  simp only [locateFrom, step_plain noQuote noOpening noClosing]
  by_cases mayStart : depth = 0 ∧ afterBlank = true
  · obtain ⟨rfl, rfl⟩ := mayStart
    simp [noKeyword rfl rfl]
  · have mayNot : (depth == 0 && afterBlank) = false := by
      simpa using mayStart
    simp [mayNot]

/-- An opening bracket is passed over and counted. -/
theorem locateFrom_opening {place depth : Nat} {afterBlank : Bool} {c : Char}
    (opening : isOpening c = true) (rest : List Char) :
    locateFrom place ⟨depth, none, false⟩ afterBlank 0 (c :: rest) =
      locateFrom (place + 1) ⟨depth + 1, none, false⟩ false 0 rest := by
  simp [locateFrom, step_opening opening, isBlank_of_mark (.inr (.inl opening))]

/-- The bracket that closes another one takes it off the count. -/
theorem locateFrom_closing {place depth : Nat} {afterBlank : Bool} {c : Char}
    (closing : isClosing c = true) (rest : List Char) :
    locateFrom place ⟨depth + 1, none, false⟩ afterBlank 0 (c :: rest) =
      locateFrom (place + 1) ⟨depth, none, false⟩ false 0 rest := by
  have mark : Nesting.isQuote c = true ∨ isOpening c = true ∨ isClosing c = true :=
    .inr (.inr closing)
  simp [locateFrom, step_closing closing, isBlank_of_mark mark,
    EngineClause.at?_of_not_word (isWordChar_of_mark mark)]

/-- Within quotes the search passes over everything up to the closing quote. -/
theorem locateFrom_inQuotes {place depth : Nat} {quote : Char} {afterBlank : Bool}
    {body : List Char} (isQuote : Nesting.isQuote quote = true) (inner : QuotedPart quote body)
    (rest : List Char) :
    locateFrom place ⟨depth, some quote, false⟩ afterBlank 0 (body ++ quote :: rest) =
      locateFrom (place + (body.length + 1)) ⟨depth, none, false⟩ false 0 rest := by
  induction inner generalizing place afterBlank with
  | nil => simp [locateFrom, step_closing_quote isQuote]
  | plain noQuote noBackslash _ inductionHypothesis =>
      simp only [List.cons_append, locateFrom, step_quoted noQuote noBackslash,
        Option.isSome_some, lt_irrefl, if_true, if_false, inductionHypothesis, List.length_cons]
      congr 1
      omega
  | escaped c _ inductionHypothesis =>
      simp only [List.cons_append, locateFrom, step_backslash, step_escaped,
        Option.isSome_some, lt_irrefl, if_true, if_false, inductionHypothesis, List.length_cons]
      congr 1
      omega

/-- A quoted part is passed over as a whole. -/
theorem locateFrom_quoted {place depth : Nat} {quote : Char} {afterBlank : Bool}
    {body : List Char} (isQuote : Nesting.isQuote quote = true) (inner : QuotedPart quote body)
    (rest : List Char) :
    locateFrom place ⟨depth, none, false⟩ afterBlank 0 (quote :: (body ++ quote :: rest)) =
      locateFrom (place + 1 + (body.length + 1)) ⟨depth, none, false⟩ false 0 rest := by
  simp only [locateFrom, lt_irrefl, if_false, Option.isSome_none, Bool.false_eq_true,
    step_quote isQuote, EngineClause.at?_of_not_word (isWordChar_of_mark (.inl isQuote)), ite_self]
  rw [locateFrom_inQuotes isQuote inner]

/-- A keyword that may start here is found, and the search goes on behind it. -/
theorem locateFrom_keyword {place : Nat} (clause : EngineClause) {rest : List Char}
    (ends : ∀ c ∈ rest.head?, isBlank c = true) :
    locateFrom place ⟨0, none, false⟩ true 0 (clause.keyword ++ rest) =
      ⟨clause, place, place + clause.keyword.length⟩ ::
        locateFrom (place + clause.keyword.length) ⟨0, none, false⟩ false 0 rest := by
  have found : EngineClause.at? (clause.keyword ++ rest) = some clause :=
    EngineClause.at?_eq_some_iff.mpr (EngineClause.startsAt_iff.mpr ⟨rest, rfl, ends⟩)
  obtain ⟨c, tail, spelled, inWord⟩ := clause.keyword_eq_cons
  obtain ⟨noQuote, noOpening, noClosing⟩ := plain_of_isWordChar inWord
  rw [spelled, List.cons_append] at found ⊢
  simp only [locateFrom, lt_irrefl, if_false, Option.isSome_none, Bool.false_eq_true,
    step_plain noQuote noOpening noClosing, beq_self_eq_true, Bool.and_self, if_true, found,
    spelled, List.length_cons, Nat.add_sub_cancel, locateFrom_skip]
  congr 2
  omega

/-- Behind a blank a keyword may start. -/
theorem locateFrom_blank {place depth : Nat} {afterBlank : Bool} {c : Char}
    (blank : isBlank c = true) (rest : List Char) :
    locateFrom place ⟨depth, none, false⟩ afterBlank 0 (c :: rest) =
      locateFrom (place + 1) ⟨depth, none, false⟩ true 0 rest := by
  rw [locateFrom_plain (plain_of_isBlank blank)
    (fun _ _ => EngineClause.at?_of_not_word (isWordChar_of_isBlank blank) rest), blank]

/-- A text without blanks outside brackets and quotes holds no keyword, unless
it starts with one. -/
theorem locateFrom_solid {depth : Nat} {s : List Char}
    (solid : Nested (fun c => isBlank c = false) depth s) {place : Nat} {afterBlank : Bool}
    (inside : depth = 0 → afterBlank = false) (rest : List Char) :
    locateFrom place ⟨depth, none, false⟩ afterBlank 0 (s ++ rest) =
      locateFrom (place + s.length) ⟨0, none, false⟩ false 0 rest := by
  induction solid generalizing place afterBlank with
  | nil =>
      rw [inside rfl]
      rfl
  | plain noQuote noOpening noClosing outer _ inductionHypothesis =>
      rw [List.cons_append, locateFrom_plain ⟨noQuote, noOpening, noClosing⟩, inductionHypothesis
        outer, List.length_cons]
      · congr 1
        omega
      · intro top mayStart
        rw [inside top] at mayStart
        cases mayStart
  | opened opening _ inductionHypothesis =>
      rw [List.cons_append, locateFrom_opening opening, inductionHypothesis (fun _ => rfl),
        List.length_cons]
      congr 1
      omega
  | closed closing _ inductionHypothesis =>
      rw [List.cons_append, locateFrom_closing closing, inductionHypothesis (fun _ => rfl),
        List.length_cons]
      congr 1
      omega
  | quoted isQuote body _ inductionHypothesis =>
      rw [List.cons_append, List.append_assoc, List.cons_append, locateFrom_quoted isQuote body,
        inductionHypothesis (fun _ => rfl), List.length_cons, List.length_append, List.length_cons]
      congr 1
      omega

/-! ### Texts without keywords -/

/-- No keyword stands in a text outside brackets and quotes, between blanks or
the ends of the text. -/
def ClauseFree (s : List Char) : Prop :=
  ∀ (clause : EngineClause) (before after : List Char),
    s = before ++ (clause.keyword ++ after) → Balanced before →
      (∀ c ∈ before.getLast?, isBlank c = true) → ¬ ∀ c ∈ after.head?, isBlank c = true

/-- Where a search finds nothing, no keyword starts at its first place. -/
theorem at?_of_silent {place depth : Nat} {afterBlank : Bool} {c : Char} {rest : List Char}
    (plain : Nesting.isQuote c = false ∧ isOpening c = false ∧ isClosing c = false)
    (silent : locateFrom place ⟨depth, none, false⟩ afterBlank 0 (c :: rest) = []) :
    depth = 0 → afterBlank = true → EngineClause.at? (c :: rest) = none := by
  rintro rfl rfl
  obtain ⟨noQuote, noOpening, noClosing⟩ := plain
  cases found : EngineClause.at? (c :: rest) with
  | none => rfl
  | some clause => simp [locateFrom, step_plain noQuote noOpening noClosing, found] at silent

/-- A search that finds nothing in a text goes on behind it. -/
theorem locateFrom_append {depth : Nat} {s rest : List Char}
    (balanced : Nested (fun _ => True) depth s) (breaks : EngineClause.Breaks rest) {place : Nat}
    {afterBlank : Bool} (silent : locateFrom place ⟨depth, none, false⟩ afterBlank 0 s = []) :
    ∃ afterBlank', locateFrom place ⟨depth, none, false⟩ afterBlank 0 (s ++ rest) =
      locateFrom (place + s.length) ⟨0, none, false⟩ afterBlank' 0 rest := by
  induction balanced generalizing place afterBlank with
  | nil => exact ⟨afterBlank, rfl⟩
  | @plain depth c s noQuote noOpening noClosing _ _ inductionHypothesis =>
      have plain := And.intro noQuote (And.intro noOpening noClosing)
      have noKeyword := at?_of_silent plain silent
      rw [locateFrom_plain plain noKeyword] at silent
      rw [← EngineClause.at?_append breaks, List.cons_append] at noKeyword
      obtain ⟨afterBlank', same⟩ := inductionHypothesis silent
      refine ⟨afterBlank', ?_⟩
      rw [List.cons_append, locateFrom_plain plain noKeyword, same, List.length_cons]
      congr 1
      omega
  | opened opening _ inductionHypothesis =>
      rw [locateFrom_opening opening] at silent
      obtain ⟨afterBlank', same⟩ := inductionHypothesis silent
      refine ⟨afterBlank', ?_⟩
      rw [List.cons_append, locateFrom_opening opening, same, List.length_cons]
      congr 1
      omega
  | closed closing _ inductionHypothesis =>
      rw [locateFrom_closing closing] at silent
      obtain ⟨afterBlank', same⟩ := inductionHypothesis silent
      refine ⟨afterBlank', ?_⟩
      rw [List.cons_append, locateFrom_closing closing, same, List.length_cons]
      congr 1
      omega
  | quoted isQuote body _ inductionHypothesis =>
      rw [locateFrom_quoted isQuote body] at silent
      obtain ⟨afterBlank', same⟩ := inductionHypothesis silent
      refine ⟨afterBlank', ?_⟩
      rw [List.cons_append, List.append_assoc, List.cons_append, locateFrom_quoted isQuote body,
        same, List.length_cons, List.length_append, List.length_cons]
      congr 1
      omega

/-- A search that finds nothing reaches every place outside brackets and quotes,
and knows there whether a blank stands before. -/
theorem silent_behind {depth : Nat} {before rest : List Char}
    (balanced : Nested (fun _ => True) depth before) {place : Nat} {afterBlank : Bool}
    (silent : locateFrom place ⟨depth, none, false⟩ afterBlank 0 (before ++ rest) = [])
    (starts : before = [] → afterBlank = true)
    (blank : ∀ c ∈ before.getLast?, isBlank c = true) :
    ∃ place', locateFrom place' ⟨0, none, false⟩ true 0 rest = [] := by
  have lastOf : ∀ {c : Char} {s : List Char}, (∀ d ∈ (c :: s).getLast?, isBlank d = true) →
      (s = [] → isBlank c = true) ∧ ∀ d ∈ s.getLast?, isBlank d = true := by
    intro c s blank
    constructor
    · rintro rfl
      exact blank c rfl
    · intro d last
      apply blank d
      simp [List.getLast?_cons, Option.mem_def.mp last]
  induction balanced generalizing place afterBlank with
  | nil =>
      rw [starts rfl] at silent
      exact ⟨place, silent⟩
  | plain noQuote noOpening noClosing _ _ inductionHypothesis =>
      have plain := And.intro noQuote (And.intro noOpening noClosing)
      rw [List.cons_append, locateFrom_plain plain (at?_of_silent plain silent)] at silent
      exact inductionHypothesis silent (lastOf blank).1 (lastOf blank).2
  | opened opening _ inductionHypothesis =>
      rw [List.cons_append, locateFrom_opening opening] at silent
      refine inductionHypothesis silent ?_ (lastOf blank).2
      intro isLast
      rw [← (lastOf blank).1 isLast, isBlank_of_mark (.inr (.inl opening))]
  | closed closing _ inductionHypothesis =>
      rw [List.cons_append, locateFrom_closing closing] at silent
      refine inductionHypothesis silent ?_ (lastOf blank).2
      intro isLast
      rw [← (lastOf blank).1 isLast, isBlank_of_mark (.inr (.inr closing))]
  | @quoted depth quote body s isQuote inner _ inductionHypothesis =>
      rw [List.cons_append, List.append_assoc, List.cons_append,
        locateFrom_quoted isQuote inner] at silent
      have lastQuote : ∀ d ∈ (quote :: s).getLast?, isBlank d = true := by
        intro d last
        apply blank d
        rw [← List.cons_append, List.getLast?_append_of_ne_nil _ (List.cons_ne_nil _ _)]
        exact last
      refine inductionHypothesis silent ?_ (lastOf lastQuote).2
      intro isLast
      rw [← (lastOf lastQuote).1 isLast, isBlank_of_mark (.inl isQuote)]

/-- Nothing is found in a text without keywords; `before` is what has been
searched already. -/
theorem silent_of_clauseFree {depth : Nat} {s : List Char}
    (balanced : Nested (fun _ => True) depth s) {before : List Char} {place : Nat}
    {afterBlank : Bool} (leaves : ∀ t, Nested (fun _ => True) depth t → Balanced (before ++ t))
    (blank : afterBlank = true → ∀ c ∈ before.getLast?, isBlank c = true)
    (free : ClauseFree (before ++ s)) :
    locateFrom place ⟨depth, none, false⟩ afterBlank 0 s = [] := by
  induction balanced generalizing before place afterBlank with
  | nil => rfl
  | @plain depth c s noQuote noOpening noClosing outer _ inductionHypothesis =>
      have noKeyword : depth = 0 → afterBlank = true → EngineClause.at? (c :: s) = none := by
        rintro rfl isBlank
        rw [EngineClause.at?_eq_none_iff]
        intro clause
        by_contra starts
        obtain ⟨after, same, ends⟩ := EngineClause.startsAt_iff.mp (by simpa using starts)
        rw [same] at free
        have reached : Balanced before := by simpa using leaves [] .nil
        exact free clause before after rfl reached (blank isBlank) ends
      rw [locateFrom_plain ⟨noQuote, noOpening, noClosing⟩ noKeyword]
      rw [List.append_cons] at free
      refine inductionHypothesis ?_ (by simp) free
      intro t nested
      rw [← List.append_cons]
      exact leaves _ (.plain noQuote noOpening noClosing (fun _ => trivial) nested)
  | opened opening _ inductionHypothesis =>
      rw [locateFrom_opening opening]
      rw [List.append_cons] at free
      refine inductionHypothesis ?_ (fun isBlank => nomatch isBlank) free
      intro t nested
      rw [← List.append_cons]
      exact leaves _ (.opened opening nested)
  | closed closing _ inductionHypothesis =>
      rw [locateFrom_closing closing]
      rw [List.append_cons] at free
      refine inductionHypothesis ?_ (fun isBlank => nomatch isBlank) free
      intro t nested
      rw [← List.append_cons]
      exact leaves _ (.closed closing nested)
  | @quoted depth quote body s isQuote inner _ inductionHypothesis =>
      have regroup : ∀ t, before ++ quote :: (body ++ quote :: t) =
          (before ++ quote :: (body ++ [quote])) ++ t := by simp
      rw [locateFrom_quoted isQuote inner]
      rw [regroup] at free
      refine inductionHypothesis ?_ (fun isBlank => nomatch isBlank) free
      intro t nested
      rw [← regroup]
      exact leaves _ (.quoted isQuote inner nested)

/-- In a balanced text without keywords the search finds none. -/
theorem ClauseFree.silent {s : List Char} (free : ClauseFree s) (balanced : Balanced s)
    (place : Nat) : locateFrom place ⟨0, none, false⟩ true 0 s = [] := by
  have nothingBefore : ∀ t, Nested (fun _ => True) 0 t → Balanced ([] ++ t) :=
    fun _ nested => nested
  exact silent_of_clauseFree balanced nothingBefore (by simp) free

/-- The search finds a keyword exactly in the texts that have one. -/
theorem locateClauses_eq_nil_iff {s : List Char} (balanced : Balanced s) :
    locateClauses s = [] ↔ ClauseFree s := by
  constructor
  · rintro silent clause before after rfl reached blank ends
    obtain ⟨place, silent⟩ := silent_behind reached silent (fun _ => rfl) blank
    rw [locateFrom_keyword clause ends] at silent
    cases silent
  · intro free
    exact free.silent balanced 0

/-- A text that may stand between a keyword and the next clause. -/
structure IsBody (body : List Char) : Prop where
  balanced : Balanced body
  clauseFree : ClauseFree body

instance (body : List Char) : Decidable (IsBody body) :=
  decidable_of_iff (Balanced body ∧ locateClauses body = [])
    ⟨fun ⟨balanced, silent⟩ => ⟨balanced, (locateClauses_eq_nil_iff balanced).mp silent⟩,
      fun ⟨balanced, free⟩ => ⟨balanced, (locateClauses_eq_nil_iff balanced).mpr free⟩⟩

/-! ### Blanks at the end of a text -/

theorem breaks_of_blank {gap : List Char} (blank : ∀ c ∈ gap, isBlank c = true) :
    EngineClause.Breaks gap := by
  rintro c tail rfl
  refine ⟨blank c (by simp), ?_, ?_⟩
  · intro first
    cases blank 'B' (List.mem_cons_of_mem _ (List.mem_of_mem_head? first))
  · intro first
    cases blank 'K' (List.mem_cons_of_mem _ (List.mem_of_mem_head? first))

/-- Among blanks there is no keyword, in whatever state the search is. -/
theorem locateFrom_eq_nil_of_blank {gap : List Char} (blank : ∀ c ∈ gap, isBlank c = true)
    (place : Nat) (n : Nesting) (afterBlank : Bool) (skip : Nat) :
    locateFrom place n afterBlank skip gap = [] := by
  induction gap generalizing place n afterBlank skip with
  | nil => rfl
  | cons c gap inductionHypothesis =>
      have noWord : isWordChar c = false := isWordChar_of_isBlank (blank c (by simp))
      have later : ∀ d ∈ gap, isBlank d = true := fun d member => blank d (by simp [member])
      simp [locateFrom, EngineClause.at?_of_not_word noWord, inductionHypothesis later]

/-- Blanks at the end of a text have no influence on what is found in it. -/
theorem locateFrom_append_blank {gap : List Char} (blank : ∀ c ∈ gap, isBlank c = true)
    (s : List Char) (place : Nat) (n : Nesting) (afterBlank : Bool) (skip : Nat) :
    locateFrom place n afterBlank skip (s ++ gap) = locateFrom place n afterBlank skip s := by
  induction s generalizing place n afterBlank skip with
  | nil => exact locateFrom_eq_nil_of_blank blank place n afterBlank skip
  | cons c s inductionHypothesis =>
      have sameStart := EngineClause.at?_append (breaks_of_blank blank) (c :: s)
      rw [List.cons_append] at sameStart ⊢
      simp only [locateFrom, sameStart, inductionHypothesis]

end ColumnarSql
