/-
Module: ColumnarSql.Proofs.NestedText
Purpose: Texts whose brackets and quotes close, and cutting such texts at
  separators that stand outside of both.
Main exports:
  QuotedPart, Nested, Nested.append, Balanced, closes_iff_balanced,
  segmentsFrom_nested, balanced_joined, splitOutside_joined
-/
import ColumnarSql.Text.TopLevel
import ColumnarSql.Proofs.CharacterRuns

namespace ColumnarSql.Text

open Nesting

/-! ### Texts that close what they open

Brackets are counted without regard to their kind.  Quotes do not nest: inside
a pair of quotes only its closing quote and the backslash matter. -/

/-- A bracket that opens. -/
def isOpening (c : Char) : Bool :=
  c == '(' || c == '['

/-- A bracket that closes. -/
def isClosing (c : Char) : Bool :=
  c == ')' || c == ']'

/-- What may stand between a pair of quotes: a backslash takes the next
character along, and the quote itself stands only behind a backslash. -/
inductive QuotedPart (quote : Char) : List Char → Prop where
  | nil : QuotedPart quote []
  | plain {c : Char} {s : List Char} : c ≠ quote → c ≠ '\\' → QuotedPart quote s →
      QuotedPart quote (c :: s)
  | escaped (c : Char) {s : List Char} : QuotedPart quote s → QuotedPart quote ('\\' :: c :: s)

/-- With `depth` brackets open before it, a text closes all brackets and all
quotes, and `Outer` holds of the characters outside of them. -/
inductive Nested (Outer : Char → Prop) : Nat → List Char → Prop where
  | nil : Nested Outer 0 []
  | plain {depth : Nat} {c : Char} {s : List Char} :
      isQuote c = false → isOpening c = false → isClosing c = false → (depth = 0 → Outer c) →
        Nested Outer depth s → Nested Outer depth (c :: s)
  | opened {depth : Nat} {c : Char} {s : List Char} : isOpening c = true →
      Nested Outer (depth + 1) s → Nested Outer depth (c :: s)
  | closed {depth : Nat} {c : Char} {s : List Char} : isClosing c = true →
      Nested Outer depth s → Nested Outer (depth + 1) (c :: s)
  | quoted {depth : Nat} {quote : Char} {body s : List Char} : isQuote quote = true →
      QuotedPart quote body → Nested Outer depth s →
        Nested Outer depth (quote :: (body ++ quote :: s))

/-- Outside quoted parts every closing bracket has an earlier open one, and
none stays open. -/
def Balanced (s : List Char) : Prop :=
  Nested (fun _ => True) 0 s

/-- A text without the quote and without backslashes may stand between quotes.
-/
theorem quotedPart_of_not_mem {quote : Char} {s : List Char} (noQuote : quote ∉ s)
    (noBackslash : '\\' ∉ s) : QuotedPart quote s := by
  induction s with
  | nil => exact .nil
  | cons c s inductionHypothesis =>
      rw [List.mem_cons, not_or] at noQuote noBackslash
      apply QuotedPart.plain (Ne.symm noQuote.1) (Ne.symm noBackslash.1)
      exact inductionHypothesis noQuote.2 noBackslash.2

namespace Nested

variable {Outer : Char → Prop}

/-- A weaker demand on the outer characters is met as well. -/
theorem mono {Outer' : Char → Prop} (weaker : ∀ c, Outer c → Outer' c) {depth : Nat}
    {s : List Char} (nested : Nested Outer depth s) : Nested Outer' depth s := by
  induction nested with
  | nil => exact .nil
  | plain noQuote noOpening noClosing outer _ inductionHypothesis =>
      exact .plain noQuote noOpening noClosing (fun top => weaker _ (outer top))
        inductionHypothesis
  | opened opening _ inductionHypothesis => exact .opened opening inductionHypothesis
  | closed closing _ inductionHypothesis => exact .closed closing inductionHypothesis
  | quoted isQuote body _ inductionHypothesis => exact .quoted isQuote body inductionHypothesis

theorem balanced {s : List Char} (nested : Nested Outer 0 s) : Balanced s :=
  nested.mono fun _ _ => trivial

/-- Two texts in a row close the brackets that were open before either. -/
theorem append {depth depth' : Nat} {s t : List Char} (first : Nested Outer depth s)
    (second : Nested Outer depth' t) : Nested Outer (depth + depth') (s ++ t) := by
  induction first with
  | nil => simpa using second
  | plain noQuote noOpening noClosing outer _ inductionHypothesis =>
      exact .plain noQuote noOpening noClosing (fun top => outer (by omega)) inductionHypothesis
  | opened opening _ inductionHypothesis =>
      rw [Nat.add_right_comm] at inductionHypothesis
      exact .opened opening inductionHypothesis
  | closed closing _ inductionHypothesis =>
      rw [Nat.add_right_comm]
      exact .closed closing inductionHypothesis
  | quoted isQuote body _ inductionHypothesis =>
      rw [List.cons_append, List.append_assoc, List.cons_append]
      exact .quoted isQuote body inductionHypothesis

/-- Two nested texts in a row are nested. -/
theorem concat {s t : List Char} (first : Nested Outer 0 s) (second : Nested Outer 0 t) :
    Nested Outer 0 (s ++ t) :=
  first.append second

/-- A quoted part is nested as a whole, whatever is demanded of outer
characters. -/
theorem quotation {quote : Char} {body : List Char} (isQuote : isQuote quote = true)
    (inner : QuotedPart quote body) : Nested Outer 0 (quote :: (body ++ [quote])) :=
  .quoted isQuote inner .nil

/-- Inside one more bracket no character is outside. -/
theorem deeper {depth : Nat} {s : List Char} {c : Char} (closing : isClosing c = true)
    (nested : Nested (fun _ => True) depth s) : Nested Outer (depth + 1) (s ++ [c]) := by
  induction nested with
  | nil => exact .closed closing .nil
  | plain noQuote noOpening noClosing _ _ inductionHypothesis =>
      exact .plain noQuote noOpening noClosing (fun top => nomatch top) inductionHypothesis
  | opened opening _ inductionHypothesis => exact .opened opening inductionHypothesis
  | closed inner _ inductionHypothesis => exact .closed inner inductionHypothesis
  | quoted isQuote body _ inductionHypothesis =>
      rw [List.cons_append, List.append_assoc, List.cons_append]
      exact .quoted isQuote body inductionHypothesis

/-- In brackets anything balanced may stand. -/
theorem enclosed {first last : Char} {s : List Char} (opening : isOpening first = true)
    (closing : isClosing last = true) (inner : Balanced s) :
    Nested Outer 0 (first :: (s ++ [last])) :=
  .opened opening (inner.deeper closing)

/-- A balanced text in parentheses is nested, whatever is demanded of outer
characters. -/
theorem bracketed {s : List Char} (inner : Balanced s) : Nested Outer 0 ('(' :: (s ++ [')'])) :=
  enclosed rfl rfl inner

end Nested

/-! ### What the scan does on such texts -/

/-- A character that is neither quote nor bracket leaves the nesting as it is.
-/
theorem step_plain {depth : Nat} {c : Char} (noQuote : isQuote c = false)
    (noOpening : isOpening c = false) (noClosing : isClosing c = false) :
    Nesting.step ⟨depth, none, false⟩ c = ⟨depth, none, false⟩ := by
  have opening : (c == '(' || c == '[') = false := noOpening
  have closing : (c == ')' || c == ']') = false := noClosing
  simp [Nesting.step, noQuote, opening, closing]

theorem isQuote_of_isOpening {c : Char} (opening : isOpening c = true) : isQuote c = false := by
  simp only [isOpening, Bool.or_eq_true, beq_iff_eq] at opening
  rcases opening with rfl | rfl <;> rfl

theorem isQuote_of_isClosing {c : Char} (closing : isClosing c = true) : isQuote c = false := by
  simp only [isClosing, Bool.or_eq_true, beq_iff_eq] at closing
  rcases closing with rfl | rfl <;> rfl

theorem isOpening_of_isClosing {c : Char} (closing : isClosing c = true) :
    isOpening c = false := by
  simp only [isClosing, Bool.or_eq_true, beq_iff_eq] at closing
  rcases closing with rfl | rfl <;> rfl

/-- An opening bracket raises the depth. -/
theorem step_opening {depth : Nat} {c : Char} (opening : isOpening c = true) :
    Nesting.step ⟨depth, none, false⟩ c = ⟨depth + 1, none, false⟩ := by
  have opens : (c == '(' || c == '[') = true := opening
  simp [Nesting.step, isQuote_of_isOpening opening, opens]

/-- A closing bracket lowers the depth. -/
theorem step_closing {depth : Nat} {c : Char} (closing : isClosing c = true) :
    Nesting.step ⟨depth + 1, none, false⟩ c = ⟨depth, none, false⟩ := by
  have opens : (c == '(' || c == '[') = false := isOpening_of_isClosing closing
  have closes : (c == ')' || c == ']') = true := closing
  simp [Nesting.step, isQuote_of_isClosing closing, opens, closes]

/-- A quote outside quotes starts a quoted part. -/
theorem step_quote {depth : Nat} {quote : Char} (isQuote : isQuote quote = true) :
    Nesting.step ⟨depth, none, false⟩ quote = ⟨depth, some quote, false⟩ := by
  simp [Nesting.step, isQuote]

/-- The same quote ends the quoted part. -/
theorem step_closing_quote {depth : Nat} {quote : Char} (isQuote : isQuote quote = true) :
    Nesting.step ⟨depth, some quote, false⟩ quote = ⟨depth, none, false⟩ := by
  have noBackslash : quote ≠ '\\' := by
    rintro rfl
    cases isQuote
  simp [Nesting.step, noBackslash]

/-- Within quotes, other characters change nothing. -/
theorem step_quoted {depth : Nat} {quote c : Char} (noQuote : c ≠ quote) (noBackslash : c ≠ '\\') :
    Nesting.step ⟨depth, some quote, false⟩ c = ⟨depth, some quote, false⟩ := by
  simp [Nesting.step, noQuote, noBackslash]

theorem step_backslash (depth : Nat) (quote : Char) :
    Nesting.step ⟨depth, some quote, false⟩ '\\' = ⟨depth, some quote, true⟩ := by
  simp [Nesting.step]

/-- Whatever stands behind a backslash is taken along. -/
theorem step_escaped (depth : Nat) (quote c : Char) :
    Nesting.step ⟨depth, some quote, true⟩ c = ⟨depth, some quote, false⟩ := by
  simp [Nesting.step]

/-! ### Plain characters -/

/-- The characters that change the nesting. -/
def nestingMarks : List Char :=
  ['\'', '"', '\x60', '(', '[', ')', ']']

/-- The marks are the quotes and the brackets. -/
theorem mem_nestingMarks {c : Char} :
    c ∈ nestingMarks ↔ isQuote c = true ∨ isOpening c = true ∨ isClosing c = true := by
  simp [nestingMarks, isQuote, isOpening, isClosing, or_assoc]

theorem isBlank_of_mark {c : Char}
    (mark : isQuote c = true ∨ isOpening c = true ∨ isClosing c = true) : isBlank c = false := by
  have noBlanks : ∀ mark ∈ nestingMarks, isBlank mark = false := forall_mem_of_all (by decide)
  exact noBlanks c (mem_nestingMarks.mpr mark)

theorem isWordChar_of_mark {c : Char}
    (mark : isQuote c = true ∨ isOpening c = true ∨ isClosing c = true) :
    isWordChar c = false := by
  have noWords : ∀ mark ∈ nestingMarks, isWordChar mark = false :=
    forall_mem_of_all (by decide)
  exact noWords c (mem_nestingMarks.mpr mark)

/-- A character of a class without nesting marks is plain. -/
theorem plain_of_class {p : Char → Bool} {c : Char} (inClass : p c = true)
    (noMarks : ∀ mark ∈ nestingMarks, p mark = false) :
    isQuote c = false ∧ isOpening c = false ∧ isClosing c = false := by
  have noMark : c ∉ nestingMarks := by
    intro member
    rw [noMarks c member] at inClass
    cases inClass
  simpa [mem_nestingMarks] using noMark

/-- Blanks are neither quotes nor brackets. -/
theorem plain_of_isBlank {c : Char} (blank : isBlank c = true) :
    isQuote c = false ∧ isOpening c = false ∧ isClosing c = false :=
  plain_of_class blank (forall_mem_of_all (by decide))

/-- Word characters are neither quotes nor brackets. -/
theorem plain_of_isWordChar {c : Char} (inWord : isWordChar c = true) :
    isQuote c = false ∧ isOpening c = false ∧ isClosing c = false :=
  plain_of_class inWord (forall_mem_of_all (by decide))

/-- A text without quotes and brackets is nested if all of its characters are as
demanded. -/
theorem Nested.of_plain {Outer : Char → Prop} {s : List Char}
    (plain : ∀ c ∈ s, isQuote c = false ∧ isOpening c = false ∧ isClosing c = false)
    (outer : ∀ c ∈ s, Outer c) : Nested Outer 0 s := by
  induction s with
  | nil => exact .nil
  | cons c rest inductionHypothesis =>
      obtain ⟨noQuote, noOpening, noClosing⟩ := plain c (by simp)
      refine .plain noQuote noOpening noClosing (fun _ => outer c (by simp)) ?_
      exact inductionHypothesis (fun d member => plain d (by simp [member]))
        (fun d member => outer d (by simp [member]))

/-! ### Texts without outer blanks -/

namespace Nested

/-- Without outer blanks, a text starts with none. -/
theorem isBlank_head {depth : Nat} {s : List Char}
    (solid : Nested (fun c => isBlank c = false) depth s)
    (top : depth = 0) : ∀ c ∈ s.head?, isBlank c = false := by
  cases solid with
  | nil => simp
  | plain _ _ _ outer _ => simpa using outer top
  | opened opening _ => simpa using isBlank_of_mark (.inr (.inl opening))
  | closed closing _ => cases top
  | quoted isQuote _ _ => simpa using isBlank_of_mark (.inl isQuote)

/-- Without outer blanks, a text ends in none, since a bracket or a quote is not
blank. -/
theorem isBlank_getLast {depth : Nat} {s : List Char}
    (solid : Nested (fun c => isBlank c = false) depth s) :
    ∀ c ∈ s.getLast?, isBlank c = false := by
  -- The last character closes a bracket or a quote, or stands outside of both.
  have lastOf : ∀ {c : Char} {s : List Char}, (s = [] → isBlank c = false) →
      (∀ d ∈ s.getLast?, isBlank d = false) → ∀ d ∈ (c :: s).getLast?, isBlank d = false := by
    intro c s alone later d last
    cases s with
    | nil =>
        obtain rfl := Option.mem_some_iff.mp last
        exact alone rfl
    | cons e s => exact later d (by simpa [List.getLast?_cons_cons] using last)
  induction solid with
  | nil => simp
  | plain _ _ _ outer nested inductionHypothesis =>
      refine lastOf ?_ inductionHypothesis
      rintro rfl
      cases nested
      exact outer rfl
  | opened opening _ inductionHypothesis =>
      exact lastOf (fun _ => isBlank_of_mark (.inr (.inl opening))) inductionHypothesis
  | closed closing _ inductionHypothesis =>
      exact lastOf (fun _ => isBlank_of_mark (.inr (.inr closing))) inductionHypothesis
  | quoted isQuote _ _ inductionHypothesis =>
      intro d last
      rw [← List.cons_append, List.getLast?_append_of_ne_nil _ (List.cons_ne_nil _ _)] at last
      exact lastOf (fun _ => isBlank_of_mark (.inl isQuote)) inductionHypothesis d last

/-- Without outer blanks there is nothing to trim. -/
theorem trim_eq {s : List Char} (solid : Nested (fun c => isBlank c = false) 0 s) : trim s = s :=
  trim_eq_self (isBlank_head solid rfl) (isBlank_getLast solid)

end Nested

/-! ### Deciding whether a text closes what it opens -/

/-- Whether a text closes everything that is open before it and whatever it
opens itself, and no closing bracket lacks an open one. -/
def closes (n : Nesting) : List Char → Bool
  | [] => n == ⟨0, none, false⟩
  | c :: rest => (n.quote.isSome || n.depth != 0 || !isClosing c) && closes (n.step c) rest

/-- The test passes over a quoted part. -/
theorem closes_quoted {depth : Nat} {quote : Char} {body : List Char}
    (isQuote : isQuote quote = true) (inner : QuotedPart quote body) (s : List Char) :
    closes ⟨depth, some quote, false⟩ (body ++ quote :: s) = closes ⟨depth, none, false⟩ s := by
  induction inner with
  | nil => simp [closes, step_closing_quote isQuote]
  | plain noQuote noBackslash _ inductionHypothesis =>
      simpa [closes, step_quoted noQuote noBackslash] using inductionHypothesis
  | escaped c _ inductionHypothesis =>
      simpa [closes, step_backslash, step_escaped] using inductionHypothesis

/-- A scan that starts inside quotes and closes everything passes the closing
quote first. -/
theorem exists_quotedPart {depth : Nat} {quote : Char} :
    ∀ {s : List Char}, closes ⟨depth, some quote, false⟩ s = true →
      ∃ body rest, QuotedPart quote body ∧ s = body ++ quote :: rest
  | [], closed => by simp [closes] at closed
  | c :: rest, closed => by
      simp only [closes, Bool.and_eq_true] at closed
      by_cases backslash : c = '\\'
      · subst backslash
        rw [step_backslash] at closed
        cases rest with
        | nil => simp [closes] at closed
        | cons d tail =>
            simp only [closes, Bool.and_eq_true, step_escaped] at closed
            obtain ⟨body, after, inner, rfl⟩ := exists_quotedPart closed.2.2
            exact ⟨'\\' :: d :: body, after, .escaped d inner, rfl⟩
      · by_cases isEnd : c = quote
        · exact ⟨[], rest, .nil, by rw [isEnd, List.nil_append]⟩
        · rw [step_quoted isEnd backslash] at closed
          obtain ⟨body, after, inner, rfl⟩ := exists_quotedPart closed.2
          exact ⟨c :: body, after, .plain isEnd backslash inner, rfl⟩

/-- The test accepts what is nested. -/
theorem closes_of_nested {depth : Nat} {s : List Char} (nested : Nested (fun _ => True) depth s) :
    closes ⟨depth, none, false⟩ s = true := by
  induction nested with
  | nil => rfl
  | plain noQuote noOpening noClosing _ _ inductionHypothesis =>
      simpa [closes, step_plain noQuote noOpening noClosing, noClosing] using inductionHypothesis
  | @opened depth c s opening _ inductionHypothesis =>
      have noClosing : isClosing c = false := by
        by_contra closing
        rw [isOpening_of_isClosing (by simpa using closing)] at opening
        cases opening
      simpa [closes, step_opening opening, noClosing] using inductionHypothesis
  | closed closing _ inductionHypothesis =>
      simpa [closes, step_closing closing] using inductionHypothesis
  | @quoted depth quote body s isQuote inner _ inductionHypothesis =>
      have noClosing : isClosing quote = false := by
        by_contra closing
        rw [isQuote_of_isClosing (by simpa using closing)] at isQuote
        cases isQuote
      simpa [closes, step_quote isQuote, noClosing, closes_quoted isQuote inner]
        using inductionHypothesis

/-- The test accepts only what is nested. -/
theorem nested_of_closes {depth : Nat} {s : List Char}
    (closed : closes ⟨depth, none, false⟩ s = true) : Nested (fun _ => True) depth s := by
  -- A quoted part is passed in one step, so the induction is on the length.
  induction size : s.length using Nat.strong_induction_on generalizing depth s with
  | h size inductionHypothesis =>
    subst size
    cases s with
    | nil =>
        have atTop : depth = 0 := by simpa [closes] using closed
        subst atTop
        exact .nil
    | cons c rest =>
        have more := (Bool.and_eq_true _ _).mp closed
        by_cases isQuote : isQuote c = true
        · rw [step_quote isQuote] at more
          obtain ⟨body, after, inner, rfl⟩ := exists_quotedPart more.2
          rw [closes_quoted isQuote inner] at more
          apply Nested.quoted isQuote inner
          apply inductionHypothesis after.length _ more.2 rfl
          simp only [List.length_cons, List.length_append]
          omega
        rw [Bool.not_eq_true] at isQuote
        have later : ∀ {depth' : Nat}, closes ⟨depth', none, false⟩ rest = true →
            Nested (fun _ => True) depth' rest :=
          fun closed => inductionHypothesis rest.length (Nat.lt_succ_self _) closed rfl
        by_cases opening : isOpening c = true
        · rw [step_opening opening] at more
          exact .opened opening (later more.2)
        by_cases closing : isClosing c = true
        · obtain ⟨outer, rfl⟩ : ∃ outer, depth = outer + 1 := by
            apply Nat.exists_eq_succ_of_ne_zero
            simpa [closing] using more.1
          rw [step_closing closing] at more
          exact .closed closing (later more.2)
        rw [Bool.not_eq_true] at opening closing
        rw [step_plain isQuote opening closing] at more
        exact .plain isQuote opening closing (fun _ => trivial) (later more.2)

/-- A text passes the test exactly if it is balanced. -/
theorem closes_iff_balanced {s : List Char} : closes ⟨0, none, false⟩ s = true ↔ Balanced s :=
  ⟨nested_of_closes, closes_of_nested⟩

instance (s : List Char) : Decidable (Balanced s) :=
  decidable_of_iff _ closes_iff_balanced

/-! ### Cutting at top-level commas -/

/-- A quoted part stays in one segment. -/
theorem segmentsFrom_quoted {depth : Nat} {quote : Char} {body : List Char}
    (isQuote : isQuote quote = true) (inner : QuotedPart quote body) (part rest : List Char) :
    segmentsFrom ',' ⟨depth, some quote, false⟩ part (body ++ quote :: rest) =
      segmentsFrom ',' ⟨depth, none, false⟩ (part ++ (body ++ [quote])) rest := by
  induction inner generalizing part with
  | nil => simp [segmentsFrom, Nesting.isTop, step_closing_quote isQuote]
  | plain noQuote noBackslash _ inductionHypothesis =>
      simp [segmentsFrom, Nesting.isTop, step_quoted noQuote noBackslash, inductionHypothesis]
  | escaped c _ inductionHypothesis =>
      simp [segmentsFrom, Nesting.isTop, step_backslash, step_escaped, inductionHypothesis]

/-- A text without top-level commas goes into the part being read as a whole. -/
theorem segmentsFrom_nested {depth : Nat} {s : List Char} (nested : Nested (· ≠ ',') depth s)
    (part rest : List Char) :
    segmentsFrom ',' ⟨depth, none, false⟩ part (s ++ rest) =
      segmentsFrom ',' ⟨0, none, false⟩ (part ++ s) rest := by
  induction nested generalizing part with
  | nil => simp
  | @plain depth c s noQuote noOpening noClosing outer _ inductionHypothesis =>
      have noCut : (Nesting.isTop ⟨depth, none, false⟩ && c == ',') = false := by
        cases depth with
        | zero => simp [outer rfl]
        | succ => rfl
      simp [segmentsFrom, noCut, step_plain noQuote noOpening noClosing, inductionHypothesis]
  | @opened depth c s opening _ inductionHypothesis =>
      have noComma : c ≠ ',' := by rintro rfl; cases opening
      simp [segmentsFrom, noComma, step_opening opening, inductionHypothesis]
  | @closed depth c s closing _ inductionHypothesis =>
      have noComma : c ≠ ',' := by rintro rfl; cases closing
      simp [segmentsFrom, noComma, step_closing closing, inductionHypothesis]
  | @quoted depth quote body s isQuote inner _ inductionHypothesis =>
      have noComma : quote ≠ ',' := by rintro rfl; cases isQuote
      simp [segmentsFrom, noComma, step_quote isQuote, segmentsFrom_quoted isQuote inner,
        inductionHypothesis]

/-- Joined items come apart, each with the gap in front of it. -/
theorem segmentsFrom_joined {gap : List Char} {item : List Char} {items : List (List Char)}
    (whole : ∀ s ∈ item :: items, Nested (· ≠ ',') 0 s)
    (spaced : Nested (· ≠ ',') 0 gap) (part : List Char) :
    segmentsFrom ',' ⟨0, none, false⟩ part (List.intercalate (',' :: gap) (item :: items)) =
      (part ++ item) :: items.map (gap ++ ·) := by
  induction items generalizing item part with
  | nil =>
      have last := segmentsFrom_nested (whole item (by simp)) part []
      rw [List.append_nil] at last
      rw [List.intercalate_singleton, last, segmentsFrom, List.map_nil]
  | cons next items inductionHypothesis =>
      have later : ∀ s ∈ next :: items, Nested (· ≠ ',') 0 s :=
        fun s member => whole s (List.mem_cons_of_mem _ member)
      rw [List.intercalate_cons_cons, List.append_assoc,
        segmentsFrom_nested (whole item (by simp)), List.cons_append]
      simp only [segmentsFrom, Nesting.isTop, Option.isNone_none, beq_self_eq_true, Bool.and_self,
        if_true]
      rw [segmentsFrom_nested spaced, List.nil_append, inductionHypothesis later, List.map_cons]

theorem nested_of_blank {gap : List Char} (blank : ∀ c ∈ gap, isBlank c = true) :
    Nested (· ≠ ',') 0 gap := by
  refine .of_plain (fun c member => plain_of_isBlank (blank c member)) ?_
  rintro c member rfl
  cases blank _ member

/-- Balanced items joined by commas are balanced. -/
theorem balanced_joined {gap : List Char} (blank : ∀ c ∈ gap, isBlank c = true)
    {items : List (List Char)} (balanced : ∀ s ∈ items, Balanced s) :
    Balanced (List.intercalate (',' :: gap) items) := by
  induction items with
  | nil => exact .nil
  | cons item items inductionHypothesis =>
      have later := inductionHypothesis fun s member => balanced s (List.mem_cons_of_mem _ member)
      cases items with
      | nil =>
          rw [List.intercalate_singleton]
          exact balanced item (by simp)
      | cons next items =>
          rw [List.intercalate_cons_cons, List.append_assoc]
          apply (balanced item (by simp)).concat
          apply Nested.plain rfl rfl rfl (fun _ => trivial)
          exact (nested_of_blank blank).balanced.concat later

/-- Items that are joined by commas and blanks are what the cut gives back. -/
theorem splitOutside_joined {gap : List Char} (blank : ∀ c ∈ gap, isBlank c = true)
    {items : List (List Char)} (whole : ∀ s ∈ items, Nested (· ≠ ',') 0 s)
    (solid : ∀ s ∈ items, s ≠ [] ∧ trim s = s) :
    splitOutside ',' (List.intercalate (',' :: gap) items) = items := by
  cases items with
  | nil => rfl
  | cons item items =>
      rw [splitOutside, segmentsFrom_joined whole (nested_of_blank blank), List.nil_append]
      cases items with
      | nil =>
          obtain ⟨nonempty, trimmed⟩ := solid item (by simp)
          simp [trimmed, nonempty]
      | cons next items =>
          have trims : ∀ s ∈ item :: next :: items, trim s = s := fun s member => (solid s member).2
          have later : ∀ s ∈ next :: items, trim (gap ++ s) = s := by
            intro s member
            rw [trim_append_of_blank blank, trims s (List.mem_cons_of_mem _ member)]
          simp only [List.map_cons, List.map_map]
          rw [trims item (by simp), later next (by simp)]
          have kept : items.map (trim ∘ (gap ++ ·)) = items.map id :=
            List.map_congr_left fun s member => later s (by simp [member])
          rw [kept, List.map_id]

end ColumnarSql.Text
