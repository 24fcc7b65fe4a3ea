/-
Module: ColumnarSql.Proofs.ClausePositions
Purpose: In any text, closed or not, the search for keywords finds exactly those
  that stand outside brackets and quotes between blanks, and the text can be cut
  at the bytes where they start and stop.
Main exports:
  Outside, Scanned, scanned_scan, OpensWord, KeywordPlace, locateFrom_spec,
  mem_locateClauses_iff, locateClauses_disjoint, clauseSpans, byteSlice_slice,
  locateClauses_exact
-/
import ColumnarSql.Proofs.BytePositions
import ColumnarSql.Proofs.EngineAssembly

namespace ColumnarSql

namespace Text

open Nesting

/-! ### Texts that end outside quotes

Nothing is assumed of these texts: a closing bracket without an open one does
nothing, and brackets and quotes may stay open. -/

/-- A text that ends outside quotes, with `depth` brackets open. -/
inductive Outside : Nat → List Char → Prop where
  | nil : Outside 0 []
  | plain {depth : Nat} {s : List Char} {c : Char} : isQuote c = false → isOpening c = false →
      isClosing c = false → Outside depth s → Outside depth (s ++ [c])
  | opened {depth : Nat} {s : List Char} {c : Char} : isOpening c = true → Outside depth s →
      Outside (depth + 1) (s ++ [c])
  | closed {depth : Nat} {s : List Char} {c : Char} : isClosing c = true → Outside depth s →
      Outside (depth - 1) (s ++ [c])
  | quoted {depth : Nat} {s body : List Char} {quote : Char} : isQuote quote = true →
      QuotedPart quote body → Outside depth s → Outside depth (s ++ quote :: (body ++ [quote]))

/-- What the state of a scan says about the text behind it: the text ends outside
quotes, or the last quote that was opened outside of others is still open, with
or without a backslash at the end. -/
inductive Scanned : Nesting → List Char → Prop where
  | outside {depth : Nat} {s : List Char} : Outside depth s → Scanned ⟨depth, none, false⟩ s
  | inQuotes {depth : Nat} {s body : List Char} {quote : Char} : Outside depth s →
      isQuote quote = true → QuotedPart quote body →
        Scanned ⟨depth, some quote, false⟩ (s ++ quote :: body)
  | afterBackslash {depth : Nat} {s body : List Char} {quote : Char} : Outside depth s →
      isQuote quote = true → QuotedPart quote body →
        Scanned ⟨depth, some quote, true⟩ (s ++ quote :: (body ++ ['\\']))

/-- Two texts that may stand between quotes may stand there together. -/
theorem QuotedPart.append {quote : Char} {s t : List Char} (first : QuotedPart quote s)
    (second : QuotedPart quote t) : QuotedPart quote (s ++ t) := by
  induction first with
  | nil => exact second
  | plain noQuote noBackslash _ inductionHypothesis =>
      exact .plain noQuote noBackslash inductionHypothesis
  | escaped c _ inductionHypothesis => exact .escaped c inductionHypothesis

/-- A closing bracket outside quotes lowers the depth by one, down to zero. -/
theorem step_any_closing {depth : Nat} {c : Char} (closing : isClosing c = true) :
    Nesting.step ⟨depth, none, false⟩ c = ⟨depth - 1, none, false⟩ := by
  cases depth with
  | succ depth => exact step_closing closing
  | zero =>
      have opens : (c == '(' || c == '[') = false := isOpening_of_isClosing closing
      have closes : (c == ')' || c == ']') = true := closing
      simp [Nesting.step, isQuote_of_isClosing closing, opens, closes]

/-- A step of the scan takes the next character into account. -/
theorem Scanned.step {n : Nesting} {s : List Char} (scanned : Scanned n s) (c : Char) :
    Scanned (n.step c) (s ++ [c]) := by
  cases scanned with
  | outside outer =>
      by_cases isQuote : isQuote c = true
      · rw [step_quote isQuote]
        exact .inQuotes outer isQuote .nil
      by_cases opening : isOpening c = true
      · rw [step_opening opening]
        exact .outside (.opened opening outer)
      by_cases closing : isClosing c = true
      · rw [step_any_closing closing]
        exact .outside (.closed closing outer)
      rw [Bool.not_eq_true] at isQuote opening closing
      rw [step_plain isQuote opening closing]
      exact .outside (.plain isQuote opening closing outer)
  | @inQuotes depth s body quote outer isQuote inner =>
      rw [List.append_assoc, List.cons_append]
      by_cases backslash : c = '\\'
      · subst backslash
        rw [step_backslash]
        exact .afterBackslash outer isQuote inner
      by_cases isEnd : c = quote
      · subst isEnd
        rw [step_closing_quote isQuote]
        exact .outside (.quoted isQuote inner outer)
      rw [step_quoted isEnd backslash]
      exact .inQuotes outer isQuote (inner.append (.plain isEnd backslash .nil))
  | afterBackslash outer isQuote inner =>
      rw [step_escaped, List.append_assoc, List.cons_append, List.append_assoc]
      exact .inQuotes outer isQuote (inner.append (.escaped c .nil))

/-- The state of a scan behind a text. -/
def scan (s : List Char) : Nesting :=
  s.foldl Nesting.step ⟨0, none, false⟩

/-- A text is scanned part by part. -/
theorem scan_append (s t : List Char) : scan (s ++ t) = t.foldl Nesting.step (scan s) :=
  List.foldl_append

theorem scan_concat (s : List Char) (c : Char) : scan (s ++ [c]) = (scan s).step c :=
  scan_append s [c]

/-- Every scan ends in a state that says the truth about the text. -/
theorem scanned_scan (s : List Char) : Scanned (scan s) s := by
  induction s using List.reverseRecOn with
  | nil => exact .outside .nil
  | append_singleton s c inductionHypothesis =>
      rw [scan_concat]
      exact inductionHypothesis.step c

/-- What stands between quotes leaves the state of the scan as it was. -/
theorem foldl_step_quotedPart {depth : Nat} {quote : Char} {body : List Char}
    (inner : QuotedPart quote body) :
    body.foldl Nesting.step ⟨depth, some quote, false⟩ = ⟨depth, some quote, false⟩ := by
  induction inner with
  | nil => rfl
  | plain noQuote noBackslash _ inductionHypothesis =>
      rw [List.foldl_cons, step_quoted noQuote noBackslash, inductionHypothesis]
  | escaped c _ inductionHypothesis =>
      rw [List.foldl_cons, List.foldl_cons, step_backslash, step_escaped, inductionHypothesis]

/-- The state of the scan behind a text that ends outside quotes. -/
theorem scan_of_outside {depth : Nat} {s : List Char} (outer : Outside depth s) :
    scan s = ⟨depth, none, false⟩ := by
  induction outer with
  | nil => rfl
  | plain noQuote noOpening noClosing _ inductionHypothesis =>
      rw [scan_concat, inductionHypothesis, step_plain noQuote noOpening noClosing]
  | opened opening _ inductionHypothesis =>
      rw [scan_concat, inductionHypothesis, step_opening opening]
  | closed closing _ inductionHypothesis =>
      rw [scan_concat, inductionHypothesis, step_any_closing closing]
  | quoted isQuote inner _ inductionHypothesis =>
      rw [scan_append, inductionHypothesis, List.foldl_cons, step_quote isQuote,
        List.foldl_append, foldl_step_quotedPart inner, List.foldl_cons,
        step_closing_quote isQuote, List.foldl_nil]

/-- If the state knows of no unclosed quote, there is none. -/
theorem Scanned.outside_of_quote {n : Nesting} {s : List Char} (scanned : Scanned n s)
    (noQuote : n.quote = none) : Outside n.depth s := by
  cases scanned with
  | outside outer => exact outer
  | inQuotes => cases noQuote
  | afterBackslash => cases noQuote

/-- The scan is outside quotes exactly where the text is. -/
theorem quote_scan_eq_none_iff {s : List Char} :
    (scan s).quote = none ↔ ∃ depth, Outside depth s := by
  constructor
  · intro noQuote
    exact ⟨_, (scanned_scan s).outside_of_quote noQuote⟩
  · rintro ⟨depth, outer⟩
    rw [scan_of_outside outer]

/-- Characters that are neither quotes nor brackets change no nesting. -/
theorem Outside.append_plain {depth : Nat} {s : List Char} (outer : Outside depth s)
    {t : List Char} (plain : ∀ c ∈ t, isQuote c = false ∧ isOpening c = false ∧ isClosing c = false) :
    Outside depth (s ++ t) := by
  induction t using List.reverseRecOn with
  | nil => rwa [List.append_nil]
  | append_singleton t c inductionHypothesis =>
      obtain ⟨noQuote, noOpening, noClosing⟩ := plain c (by simp)
      rw [← List.append_assoc]
      apply Outside.plain noQuote noOpening noClosing
      exact inductionHypothesis fun d member => plain d (by simp [member])

end Text

open Text

/-! ### Where a keyword counts -/

/-- Behind a text a keyword may start: nothing stands before, or a blank outside
quotes. -/
def OpensWord (before : List Char) : Prop :=
  before = [] ∨ ∃ front c depth, before = front ++ [c] ∧ isBlank c = true ∧ Outside depth front

theorem opensWord_nil : OpensWord [] := .inl rfl

/-- Behind a character a keyword may start exactly if the character is a blank
outside quotes. -/
theorem opensWord_concat_iff {before : List Char} {c : Char} :
    OpensWord (before ++ [c]) ↔ isBlank c = true ∧ (scan before).quote = none := by
  rw [quote_scan_eq_none_iff]
  constructor
  · rintro (nothing | ⟨front, d, depth, same, blank, outer⟩)
    · simp at nothing
    · obtain ⟨rfl, rfl⟩ := List.append_inj' same rfl |>.imp_right (List.cons.inj · |>.1)
      exact ⟨blank, depth, outer⟩
  · rintro ⟨blank, depth, outer⟩
    exact .inr ⟨before, c, depth, rfl, blank, outer⟩

/-- Between these two texts a keyword starts a clause: it stands outside brackets
and quotes, at the start or behind a blank, and at the end or before a blank. -/
structure KeywordPlace (before after : List Char) : Prop where
  outside : Outside 0 before
  opens : OpensWord before
  ends : ∀ c ∈ after.head?, isBlank c = true

/-- A keyword that starts a clause, in a text whose first part `before` has been
searched already. -/
def Occurs (before rest : List Char) (hit : ClauseHit) : Prop :=
  ∃ between after, rest = between ++ (hit.clause.keyword ++ after) ∧
    KeywordPlace (before ++ between) after ∧ hit.start = (before ++ between).length ∧
      hit.stop = (before ++ between ++ hit.clause.keyword).length

namespace EngineClause

/-- Keywords hold neither quotes nor brackets. -/
theorem plain_keyword (clause : EngineClause) :
    ∀ c ∈ clause.keyword, Nesting.isQuote c = false ∧ isOpening c = false ∧ isClosing c = false := by
  apply forall_mem_of_all
  cases clause <;> decide

/-- Inside a keyword no other keyword may start: what follows its blank is BY or
KEY. -/
theorem not_opensWord_inside {clause other : EngineClause} {before front tail after rest : List Char}
    (spelled : clause.keyword = front ++ tail) (entered : front ≠ []) (inside : tail ≠ [])
    (continues : tail ++ after = other.keyword ++ rest) : ¬ OpensWord (before ++ front) := by
  intro opens
  obtain ⟨front, c, rfl⟩ := (List.eq_nil_or_concat' front).resolve_left entered
  rw [← List.append_assoc, opensWord_concat_iff] at opens
  rw [List.append_assoc, List.singleton_append] at spelled
  obtain ⟨first, more, otherSpelled, -⟩ := other.keyword_eq_cons
  obtain ⟨d, tail, rfl⟩ := List.exists_cons_of_ne_nil inside
  have sameHead : other.keyword.head? = some d := by
    rw [otherSpelled, List.cons_append, List.cons_append, List.cons.injEq] at continues
    rw [otherSpelled, List.head?_cons, continues.1]
  obtain ⟨noB, noK⟩ := other.head?_keyword
  rw [sameHead] at noB noK
  rcases keyword_blank spelled opens.1 with isB | isK
  · exact noB isB
  · exact noK isK

/-- No keyword is the start of another, so a text starts with one at most. -/
theorem eq_of_keyword_append {a b : EngineClause} {s t : List Char}
    (same : a.keyword ++ s = b.keyword ++ t) : a = b := by
  have starts := List.prefix_or_prefix_of_prefix ⟨s, rfl⟩ ⟨t, same.symm⟩
  rcases starts with starts | starts
  · exact eq_of_keyword_starts starts
  · exact (eq_of_keyword_starts starts).symm

end EngineClause

/-! ### The steps of the search

The state of the search is what a scan knows of the text before, together with
whether a keyword may start there. -/

/-- Where no clause starts, no keyword is reported either. -/
theorem at?_of_not_keywordPlace {before rest : List Char} {c : Char} {depth : Nat}
    (outer : Outside depth before) (opens : OpensWord before)
    (atTop : (Nesting.step ⟨depth, none, false⟩ c).depth = 0)
    (noKeyword : ∀ clause after, c :: rest = EngineClause.keyword clause ++ after →
      ¬ KeywordPlace before after) :
    EngineClause.at? (c :: rest) = none := by
  rw [EngineClause.at?_eq_none_iff]
  intro clause
  by_contra starts
  obtain ⟨after, same, ends⟩ := EngineClause.startsAt_iff.mp (by simpa using starts)
  obtain ⟨d, tail, spelled, inWord⟩ := clause.keyword_eq_cons
  have first : c = d := by
    rw [spelled, List.cons_append, List.cons.injEq] at same
    exact same.1
  -- A letter leaves the nesting as it is, so the keyword itself stands outside.
  obtain ⟨noQuote, noOpening, noClosing⟩ := plain_of_isWordChar inWord
  rw [first, step_plain noQuote noOpening noClosing] at atTop
  obtain rfl : depth = 0 := atTop
  exact noKeyword clause after same ⟨outer, opens, ends⟩

/-- Where no clause starts, the search takes one character. -/
theorem locateFrom_pass {before rest : List Char} {c : Char} {afterBlank : Bool}
    (blank : afterBlank = true ↔ OpensWord before)
    (noKeyword : ∀ clause after, c :: rest = EngineClause.keyword clause ++ after →
      ¬ KeywordPlace before after) :
    ∃ afterBlank' : Bool, (afterBlank' = true ↔ OpensWord (before ++ [c])) ∧
      locateFrom before.length (scan before) afterBlank 0 (c :: rest) =
        locateFrom (before ++ [c]).length (scan (before ++ [c])) afterBlank' 0 rest := by
  simp only [opensWord_concat_iff, scan_concat, List.length_append, List.length_singleton]
  cases state : (scan before).quote with
  | some quote =>
      refine ⟨false, by simp, ?_⟩
      simp [locateFrom, state]
  | none =>
      refine ⟨isBlank c, by simp, ?_⟩
      have outer : Outside (scan before).depth before :=
        (scanned_scan before).outside_of_quote state
      have nothing : (if ((scan before).step c).depth == 0 && afterBlank
          then EngineClause.at? (c :: rest) else none) = none := by
        split
        · rename_i mayStart
          rw [Bool.and_eq_true, beq_iff_eq, scan_of_outside outer] at mayStart
          exact at?_of_not_keywordPlace outer (blank.mp mayStart.2) mayStart.1 noKeyword
        · rfl
      simp only [locateFrom, state, Option.isSome_none, Nat.lt_irrefl, if_false,
        Bool.false_eq_true, nothing]

/-- Where a clause starts, the search reports it and goes on behind its keyword. -/
theorem locateFrom_hit {before after : List Char} (clause : EngineClause) {afterBlank : Bool}
    (blank : afterBlank = true ↔ OpensWord before) (place : KeywordPlace before after) :
    locateFrom before.length (scan before) afterBlank 0 (clause.keyword ++ after) =
      ⟨clause, before.length, (before ++ clause.keyword).length⟩ ::
        locateFrom (before ++ clause.keyword).length (scan (before ++ clause.keyword)) false 0
          after := by
  have outer : Outside 0 (before ++ clause.keyword) :=
    place.outside.append_plain clause.plain_keyword
  rw [blank.mpr place.opens, scan_of_outside place.outside, scan_of_outside outer,
    locateFrom_keyword clause place.ends, List.length_append]

/-- Directly behind a keyword no other one may start. -/
theorem EngineClause.not_opensWord_behind (clause : EngineClause) (before : List Char) :
    ¬ OpensWord (before ++ clause.keyword) := by
  obtain ⟨c, tail, spelled, -⟩ := clause.keyword_eq_cons
  have nonempty : clause.keyword ≠ [] := by simp [spelled]
  obtain ⟨front, last, same⟩ := (List.eq_nil_or_concat' clause.keyword).resolve_left nonempty
  rw [same, ← List.append_assoc, opensWord_concat_iff]
  rintro ⟨blank, -⟩
  rw [clause.isBlank_getLast_keyword last (by simp [same])] at blank
  cases blank

/-! ### The run of the search -/

/-- Where no keyword starts, the search may move on by one character and loses
nothing. -/
theorem occurs_pass_iff {before rest : List Char} {c : Char}
    (noKeyword : ∀ clause after, c :: rest = EngineClause.keyword clause ++ after →
      ¬ KeywordPlace before after) {hit : ClauseHit} :
    Occurs before (c :: rest) hit ↔ Occurs (before ++ [c]) rest hit := by
  constructor
  · rintro ⟨between, after, same, place, starts, stops⟩
    cases between with
    | nil =>
        rw [List.append_nil] at place
        exact absurd place (noKeyword hit.clause after same)
    | cons d between =>
        obtain ⟨rfl, sameRest⟩ := List.cons.inj same
        rw [List.append_cons] at place starts stops
        exact ⟨between, after, sameRest, place, starts, stops⟩
  · rintro ⟨between, after, rfl, place, starts, stops⟩
    rw [← List.append_cons] at place starts stops
    exact ⟨c :: between, after, rfl, place, starts, stops⟩

/-- Where a keyword starts, it is found, and the search goes on behind it. -/
theorem occurs_hit_iff {before after : List Char} {clause : EngineClause}
    (place : KeywordPlace before after) {hit : ClauseHit} :
    Occurs before (clause.keyword ++ after) hit ↔
      hit = ⟨clause, before.length, (before ++ clause.keyword).length⟩ ∨
        Occurs (before ++ clause.keyword) after hit := by
  constructor
  · rintro ⟨between, rest, same, other, starts, stops⟩
    rcases List.append_eq_append_iff.mp same with ⟨more, rfl, behind⟩ | ⟨more, spelled, behind⟩
    · rw [← List.append_assoc] at other starts stops
      exact .inr ⟨more, rest, behind, other, starts, stops⟩
    · by_cases here : between = []
      · subst here
        obtain rfl : hit.clause = clause := EngineClause.eq_of_keyword_append same.symm
        rw [List.append_nil] at starts stops
        left
        rw [← starts, ← stops]
      by_cases passed : more = []
      · rw [passed, List.append_nil] at spelled
        rw [passed, List.nil_append] at behind
        rw [← spelled, ← List.append_nil (before ++ clause.keyword)] at other starts stops
        exact .inr ⟨[], rest, behind.symm, other, starts, stops⟩
      · exact absurd other.opens
          (EngineClause.not_opensWord_inside spelled here passed behind.symm)
  · rintro (rfl | ⟨between, rest, rfl, other, starts, stops⟩)
    · rw [← List.append_nil before] at place
      exact ⟨[], after, rfl, place, by rw [List.append_nil], by rw [List.append_nil]⟩
    · rw [List.append_assoc before] at other starts stops
      exact ⟨clause.keyword ++ between, rest, by simp, other, starts, stops⟩

/-- The search reports exactly the keywords that start a clause, and each one
ends before the next starts. -/
theorem locateFrom_spec {before : List Char} (rest : List Char) {afterBlank : Bool}
    (blank : afterBlank = true ↔ OpensWord before) :
    (∀ hit, hit ∈ locateFrom before.length (scan before) afterBlank 0 rest ↔
      Occurs before rest hit) ∧
    (locateFrom before.length (scan before) afterBlank 0 rest).Pairwise
      (fun a b => a.stop ≤ b.start) := by
  -- A keyword is passed as a whole, so the induction is on the length.
  induction size : rest.length using Nat.strong_induction_on
    generalizing before rest afterBlank with
  | h size inductionHypothesis =>
    subst size
    by_cases starts : ∃ clause after, rest = EngineClause.keyword clause ++ after ∧
        KeywordPlace before after
    · obtain ⟨clause, after, rfl, place⟩ := starts
      have shorter : after.length < (clause.keyword ++ after).length := by
        obtain ⟨c, tail, spelled, -⟩ := clause.keyword_eq_cons
        simp only [spelled, List.length_append, List.length_cons]
        omega
      have notBlank : false = true ↔ OpensWord (before ++ clause.keyword) := by
        simp [clause.not_opensWord_behind before]
      obtain ⟨found, disjoint⟩ := inductionHypothesis _ shorter after notBlank rfl
      rw [locateFrom_hit clause blank place]
      constructor
      · intro hit
        rw [List.mem_cons, found, occurs_hit_iff place]
      · refine List.pairwise_cons.mpr ⟨?_, disjoint⟩
        intro hit later
        obtain ⟨between, rest, -, -, starts, -⟩ := (found hit).mp later
        rw [starts]
        exact (List.prefix_append (before ++ clause.keyword) between).length_le
    · cases rest with
      | nil =>
          constructor
          · intro hit
            constructor
            · intro member
              cases member
            · rintro ⟨between, after, same, -, -, -⟩
              obtain ⟨c, tail, spelled, -⟩ := hit.clause.keyword_eq_cons
              simp [spelled] at same
          · exact List.Pairwise.nil
      | cons c rest =>
          have noKeyword : ∀ clause after, c :: rest = EngineClause.keyword clause ++ after →
              ¬ KeywordPlace before after :=
            fun clause after same place => starts ⟨clause, after, same, place⟩
          obtain ⟨afterBlank', blank', passed⟩ := locateFrom_pass blank noKeyword
          obtain ⟨found, disjoint⟩ :=
            inductionHypothesis rest.length (Nat.lt_succ_self _) rest blank' rfl
          rw [passed]
          refine ⟨?_, disjoint⟩
          intro hit
          rw [found, occurs_pass_iff noKeyword]

/-- The search finds exactly the keywords that start a clause, with their
places. -/
theorem mem_locateClauses_iff {s : List Char} {hit : ClauseHit} :
    hit ∈ locateClauses s ↔ ∃ before after, s = before ++ (hit.clause.keyword ++ after) ∧
      KeywordPlace before after ∧ hit.start = before.length ∧
        hit.stop = (before ++ hit.clause.keyword).length := by
  have blank : true = true ↔ OpensWord [] := by simp [opensWord_nil]
  have found := (locateFrom_spec s blank).1 hit
  simp only [Occurs, List.nil_append] at found
  exact found

/-- The keywords are found in order and do not overlap. -/
theorem locateClauses_disjoint (s : List Char) :
    (locateClauses s).Pairwise (fun a b => a.stop ≤ b.start) := by
  have blank : true = true ↔ OpensWord [] := by simp [opensWord_nil]
  exact (locateFrom_spec s blank).2

/-! ### Bytes -/

/-- The keywords that start a clause, each with the bytes at which it starts and
stops. -/
def clauseSpans (s : List Char) : List (EngineClause × Nat × Nat) :=
  (locateClauses s).map fun hit =>
    (hit.clause, bytePosition s hit.start, bytePosition s hit.stop)

/-- The same in bytes: exactly the keywords that start a clause are reported. -/
theorem mem_clauseSpans_iff {s : List Char} {clause : EngineClause} {start stop : Nat} :
    (clause, start, stop) ∈ clauseSpans s ↔
      ∃ before after, s = before ++ (clause.keyword ++ after) ∧ KeywordPlace before after ∧
        start = byteLength before ∧ stop = byteLength (before ++ clause.keyword) := by
  have positions : ∀ before after : List Char, s = before ++ (clause.keyword ++ after) →
      bytePosition s before.length = byteLength before ∧
        bytePosition s (before ++ clause.keyword).length = byteLength (before ++ clause.keyword) := by
    rintro before after rfl
    refine ⟨bytePosition_append before _, ?_⟩
    rw [← List.append_assoc]
    exact bytePosition_append (before ++ clause.keyword) after
  rw [clauseSpans, List.mem_map]
  constructor
  · rintro ⟨hit, found, same⟩
    obtain ⟨rfl, rfl, rfl⟩ : hit.clause = clause ∧ bytePosition s hit.start = start ∧
        bytePosition s hit.stop = stop := by simpa using same
    obtain ⟨before, after, split, place, starts, stops⟩ := mem_locateClauses_iff.mp found
    obtain ⟨atStart, atStop⟩ := positions before after split
    exact ⟨before, after, split, place, by rw [starts, atStart], by rw [stops, atStop]⟩
  · rintro ⟨before, after, split, place, rfl, rfl⟩
    obtain ⟨atStart, atStop⟩ := positions before after split
    refine ⟨⟨clause, before.length, (before ++ clause.keyword).length⟩, ?_, by simp only [atStart, atStop]⟩
    exact mem_locateClauses_iff.mpr ⟨before, after, split, place, rfl, rfl⟩

/-- A text up to one place, continued by a slice, is the text up to the end of
the slice. -/
theorem slice_split {s : List Char} {start stop : Nat} (ordered : start ≤ stop) :
    s.take start ++ EngineText.slice s start stop = s.take stop := by
  have sameStart : (s.take stop).take start = s.take start := by
    rw [List.take_take, Nat.min_eq_left ordered]
  rw [EngineText.slice, ← sameStart, List.take_append_drop]

/-- Cutting between two places is cutting between their byte positions. -/
theorem byteSlice_slice (s : List Char) {start stop : Nat} (ordered : start ≤ stop) :
    ByteSlice s (bytePosition s start) (bytePosition s stop) (EngineText.slice s start stop) := by
  have whole : s = s.take start ++ (EngineText.slice s start stop ++ s.drop stop) := by
    rw [← List.append_assoc, slice_split ordered, List.take_append_drop]
  have cut := byteSlice_append (s.take start) (EngineText.slice s start stop) (s.drop stop)
  rwa [← whole, slice_split ordered] at cut

theorem bytePosition_mono (s : List Char) {a b : Nat} (ordered : a ≤ b) :
    bytePosition s a ≤ bytePosition s b :=
  (byteSlice_slice s ordered).ordered

theorem byteLength_keyword_pos (clause : EngineClause) : 0 < byteLength clause.keyword := by
  cases clause <;> decide

/-- In bytes too, keywords do not overlap and none is empty. -/
theorem clauseSpans_increasing (s : List Char) :
    (clauseSpans s).Pairwise (fun a b => a.2.1 < b.2.1 ∧ a.2.2 ≤ b.2.1) := by
  rw [clauseSpans, List.pairwise_map]
  refine (locateClauses_disjoint s).imp_of_mem ?_
  intro a b found _ disjoint
  have apart : bytePosition s a.stop ≤ bytePosition s b.start := bytePosition_mono s disjoint
  have longer : bytePosition s a.start < bytePosition s a.stop := by
    obtain ⟨before, after, -, -, starts, stops⟩ :=
      mem_clauseSpans_iff.mp (List.mem_map_of_mem found)
    have positive := byteLength_keyword_pos a.clause
    rw [starts, stops, byteLength_append]
    omega
  exact ⟨Nat.lt_of_lt_of_le longer apart, apart⟩

/-- The text of a clause does not stop before it starts. -/
theorem stop_le_stopBefore {s : List Char} {front rest : List ClauseHit} {hit : ClauseHit}
    (located : locateClauses s = front ++ hit :: rest) :
    hit.stop ≤ EngineText.stopBefore s rest := by
  cases rest with
  | nil =>
      have found : hit ∈ locateClauses s := by simp [located]
      obtain ⟨before, after, split, -, -, stops⟩ := mem_locateClauses_iff.mp found
      rw [← List.append_assoc] at split
      rw [stops]
      show (before ++ hit.clause.keyword).length ≤ s.length
      rw [split]
      exact (List.prefix_append (before ++ hit.clause.keyword) after).length_le
  | cons next rest =>
      have disjoint := locateClauses_disjoint s
      rw [located, List.pairwise_append, List.pairwise_cons] at disjoint
      exact disjoint.2.1.1 next (by simp)

/-- What is reported are exactly the keywords outside brackets and quotes, in the
order of the text.  They do not overlap, and the text can be cut at their bytes:
each keyword is a slice, and so is what stands before the first, and what stands
behind each up to the next or the end. -/
theorem locateClauses_exact (s : List Char) :
    (∀ clause start stop, (clause, start, stop) ∈ clauseSpans s ↔
      ∃ before after, s = before ++ (clause.keyword ++ after) ∧ KeywordPlace before after ∧
        start = byteLength before ∧ stop = start + byteLength clause.keyword) ∧
    (clauseSpans s).Pairwise (fun a b => a.2.1 < b.2.1 ∧ a.2.2 ≤ b.2.1) ∧
    (∀ clause start stop, (clause, start, stop) ∈ clauseSpans s →
      ByteSlice s start stop clause.keyword) ∧
    ByteSlice s 0 (bytePosition s (EngineText.stopBefore s (locateClauses s)))
      (s.take (EngineText.stopBefore s (locateClauses s))) ∧
    (∀ front hit rest, locateClauses s = front ++ hit :: rest →
      ByteSlice s (bytePosition s hit.stop) (bytePosition s (EngineText.stopBefore s rest))
        (EngineText.slice s hit.stop (EngineText.stopBefore s rest))) := by
  refine ⟨?_, clauseSpans_increasing s, ?_, ?_, ?_⟩
  · intro clause start stop
    rw [mem_clauseSpans_iff]
    constructor
    · rintro ⟨before, after, split, place, rfl, rfl⟩
      exact ⟨before, after, split, place, rfl, byteLength_append before clause.keyword⟩
    · rintro ⟨before, after, split, place, rfl, rfl⟩
      exact ⟨before, after, split, place, rfl, (byteLength_append before clause.keyword).symm⟩
  · intro clause start stop found
    obtain ⟨before, after, rfl, -, rfl, rfl⟩ := mem_clauseSpans_iff.mp found
    exact byteSlice_append before clause.keyword after
  · exact byteSlice_slice s (Nat.zero_le (EngineText.stopBefore s (locateClauses s)))
  · intro front hit rest located
    exact byteSlice_slice s (stop_le_stopBefore located)

/-- Keywords in quotes and in brackets are passed over, a closing bracket too
many does no harm, and the bytes count the letter `ä` twice. -/
theorem locateClauses_exact_hidden :
    let text := "('(ä) TTL ') [ TTL ] ORDER BY x) SETTINGS".toList
    clauseSpans text = [(.orderBy, 22, 30), (.settings, 34, 42)] ∧
      ByteSlice text 22 30 "ORDER BY".toList ∧ ByteSlice text 30 34 " x) ".toList := by
  obtain ⟨-, -, keywords, -, bodies⟩ :=
    locateClauses_exact "('(ä) TTL ') [ TTL ] ORDER BY x) SETTINGS".toList
  exact ⟨by decide, keywords .orderBy 22 30 (by decide),
    bodies [] ⟨.orderBy, 21, 29⟩ [⟨.settings, 33, 41⟩] (by decide)⟩

end ColumnarSql
