/-
Module: ColumnarSql.Proofs.Reading
Purpose: What readers accept: the parts of a type name are read exactly where
  the grammar has them.
Main exports:
  Sound, Accepts, NumberText.accepts, IntegerText.accepts, QuotedText.accepts,
  PairText.accepts, ListText.accepts, AppliedText.reads
-/
import ColumnarSql.Proofs.CharacterRuns
import ColumnarSql.Proofs.DigitStrings
import ColumnarSql.Proofs.TypeGrammar
import ColumnarSql.Text.Reading

namespace ColumnarSql.TypeGrammar

open Text Reader

/-!
A reader and a grammar rule are compared in two directions.  `Sound` says that
whatever the reader consumes is described by the rule, up to spacing in front.
`Accepts` says that the reader consumes one given text, whatever comes next,
provided that what comes next does not continue the text; the predicates
`Ends`, `Continues` and `Closes` say what can come next at the places where
readers are used.
-/

/-- Behind a whole type: nothing, spacing, a comma or a closing parenthesis. -/
def Ends (rest : List Char) : Prop :=
  ∀ c ∈ rest.head?, isSpacing c = true ∨ c = ',' ∨ c = ')'

/-- Behind an item of a list: a comma or a closing parenthesis, after
spacing. -/
def Continues (rest : List Char) : Prop :=
  ∃ spacing c tail, Spacing spacing ∧ (c = ',' ∨ c = ')') ∧ rest = spacing ++ c :: tail

/-- Behind the last thing in parentheses: the closing one, after spacing. -/
def Closes (rest : List Char) : Prop :=
  ∃ spacing tail, Spacing spacing ∧ rest = spacing ++ ')' :: tail

/-- A text that starts with something else than spacing. -/
def Solid (s : List Char) : Prop :=
  ∃ c tail, s = c :: tail ∧ isSpacing c = false

/-- What the reader consumes is a text of the grammar, after spacing. -/
def Sound {α : Type} (reader : Reader α) (Rule : List Char → α → Prop) : Prop :=
  ∀ {s : List Char} {a : α} {rest : List Char}, reader s = .parsed a rest →
    ∃ spacing text, Spacing spacing ∧ Rule text a ∧ s = spacing ++ (text ++ rest)

/-- The reader consumes the text and nothing behind it. -/
structure Accepts {α : Type} (reader : Reader α) (Follow : List Char → Prop) (s : List Char)
    (a : α) : Prop where
  solid : Solid s
  reads : ∀ rest, Follow rest → reader (s ++ rest) = .parsed a rest

/-- A reader that accepts a text before many continuations accepts it before
fewer. -/
theorem Accepts.mono {α : Type} {reader : Reader α} {Follow Follow' : List Char → Prop}
    {s : List Char} {a : α} (accepts : Accepts reader Follow s a)
    (narrower : ∀ rest, Follow' rest → Follow rest) : Accepts reader Follow' s a :=
  ⟨accepts.solid, fun rest follows => accepts.reads rest (narrower rest follows)⟩

/-! ### Spacing -/

theorem Spacing.nil : Spacing [] := by
  simp [Spacing]

theorem Spacing.append {s t : List Char} (first : Spacing s) (second : Spacing t) :
    Spacing (s ++ t) := by
  intro c member
  rcases List.mem_append.mp member with left | right
  · exact first c left
  · exact second c right

/-- Skipping spacing stops exactly where the solid part of a text starts. -/
theorem skipSpacing_append {spacing tail : List Char} (isSpaced : Spacing spacing)
    (solid : Solid tail) : skipSpacing (spacing ++ tail) = tail := by
  obtain ⟨c, rest, rfl, noSpacing⟩ := solid
  rw [skipSpacing, List.dropWhile_append_of_pos isSpaced, List.dropWhile_cons_of_neg]
  simp [noSpacing]

/-- What skipping leaves out is spacing and nothing else. -/
theorem exists_spacing (s : List Char) :
    ∃ spacing, Spacing spacing ∧ s = spacing ++ skipSpacing s := by
  refine ⟨s.takeWhile isSpacing, ?_, ?_⟩
  · intro c member
    exact List.mem_takeWhile_imp member
  · exact (List.takeWhile_append_dropWhile).symm

/-- A text is solid if its first character is not spacing. -/
theorem solid_cons {c : Char} (noSpacing : isSpacing c = false) (tail : List Char) :
    Solid (c :: tail) :=
  ⟨c, tail, rfl, noSpacing⟩

/-- Whether a text starts with spacing does not depend on what follows it. -/
theorem Solid.append {s : List Char} (solid : Solid s) (t : List Char) : Solid (s ++ t) := by
  obtain ⟨c, tail, rfl, noSpacing⟩ := solid
  exact solid_cons noSpacing (tail ++ t)

/-- Whatever closes a list also may stand behind an item of it. -/
theorem Closes.continues {rest : List Char} (closes : Closes rest) : Continues rest := by
  obtain ⟨spacing, tail, isSpaced, rfl⟩ := closes
  exact ⟨spacing, ')', tail, isSpaced, .inr rfl, rfl⟩

/-- Whatever may stand behind an item ends a word and a number. -/
theorem Continues.ends {rest : List Char} (continues : Continues rest) : Ends rest := by
  obtain ⟨spacing, c, tail, isSpaced, isMark, rfl⟩ := continues
  intro d first
  cases spacing with
  | nil =>
      simp only [List.nil_append, List.head?_cons, Option.mem_some_iff] at first
      subst first
      exact .inr isMark
  | cons e spacing =>
      simp only [List.cons_append, List.head?_cons, Option.mem_some_iff] at first
      subst first
      exact .inl (isSpaced e (by simp))

/-! ### Readings in sequence -/

/-- A sequence succeeds only if both of its readers do. -/
theorem andThen_eq_parsed {α β : Type} {reading : Reading α} {next : α → Reader β} {b : β}
    {rest : List Char} (parsed : reading.andThen next = .parsed b rest) :
    ∃ a mid, reading = .parsed a mid ∧ next a mid = .parsed b rest := by
  cases reading with
  | parsed a mid => exact ⟨a, mid, rfl, parsed⟩
  | rejected place => cases parsed
  | aborted place => cases parsed

/-- Changing the value neither makes a reading succeed nor moves its end. -/
theorem map_eq_parsed {α β : Type} {reading : Reading α} {f : α → β} {b : β} {rest : List Char}
    (parsed : reading.map f = .parsed b rest) : ∃ a, reading = .parsed a rest ∧ f a = b := by
  obtain ⟨a, mid, first, second⟩ := andThen_eq_parsed parsed
  cases second
  exact ⟨a, first, rfl⟩

@[simp] theorem andThen_parsed {α β : Type} (a : α) (rest : List Char) (next : α → Reader β) :
    (Reading.parsed a rest).andThen next = next a rest := rfl

@[simp] theorem map_parsed {α β : Type} (a : α) (rest : List Char) (f : α → β) :
    (Reading.parsed a rest).map f = .parsed (f a) rest := rfl

@[simp] theorem mark_self (c : Char) (rest : List Char) : mark c (c :: rest) = .parsed () rest := by
  simp [mark]

/-- A mark is read only where it stands. -/
theorem eq_cons_of_mark {c : Char} {s rest : List Char} {u : Unit}
    (parsed : mark c s = .parsed u rest) : s = c :: rest := by
  cases s with
  | nil => simp [mark] at parsed
  | cons head tail =>
      simp only [mark] at parsed
      split at parsed
      · rename_i same
        cases parsed
        rw [eq_of_beq same]
      · cases parsed

/-- Another character than the mark is rejected in its place. -/
theorem mark_rejects {c d : Char} (different : d ≠ c) (tail : List Char) :
    mark c (d :: tail) = .rejected (d :: tail) := by
  simp [mark, different]

/-- A mark is read together with the spacing on both of its sides. -/
theorem spacedMark_reads {c : Char} (noSpacing : isSpacing c = false)
    {before after tail : List Char} (spacingBefore : Spacing before)
    (spacingAfter : Spacing after) (solid : Solid tail) :
    spacedMark c (before ++ c :: (after ++ tail)) = .parsed () tail := by
  rw [spacedMark, skipSpacing_append spacingBefore (solid_cons noSpacing _), mark_self,
    andThen_parsed, skipSpacing_append spacingAfter solid]

/-- What a spaced mark consumes is spacing, the mark and spacing again. -/
theorem spacedMark_sound {c : Char} {s rest : List Char} {u : Unit}
    (parsed : spacedMark c s = .parsed u rest) :
    ∃ before after, Spacing before ∧ Spacing after ∧ s = before ++ c :: (after ++ rest) := by
  obtain ⟨_, mid, marked, skipped⟩ := andThen_eq_parsed parsed
  cases skipped
  obtain ⟨before, spacingBefore, split⟩ := exists_spacing s
  obtain ⟨after, spacingAfter, splitAfter⟩ := exists_spacing mid
  rw [eq_cons_of_mark marked] at split
  rw [splitAfter] at split
  exact ⟨before, after, spacingBefore, spacingAfter, split⟩

/-- No comma follows where the parenthesis closes. -/
theorem spacedComma_rejects {rest : List Char} (closes : Closes rest) :
    ∃ place, spacedComma rest = .rejected place := by
  obtain ⟨spacing, tail, isSpaced, rfl⟩ := closes
  refine ⟨')' :: tail, ?_⟩
  rw [spacedComma, spacedMark, skipSpacing_append isSpaced (solid_cons (by decide) _)]
  rfl

/-! ### Maximal runs -/

/-- What ends a word does not start with a word character. -/
theorem Ends.not_word {rest : List Char} (ends : Ends rest) :
    ∀ c ∈ rest.head?, isWordChar c = false := by
  intro c first
  rcases ends c first with spacing | rfl | rfl
  · exact isWordChar_of_isSpacing spacing
  · decide
  · decide

/-- What ends a number does not start with a digit. -/
theorem Ends.not_digit {rest : List Char} (ends : Ends rest) :
    ∀ c ∈ rest.head?, c.isDigit = false := by
  intro c first
  by_contra digit
  rw [Bool.not_eq_false] at digit
  have inWord := isWordChar_of_isDigit digit
  rw [ends.not_word c first] at inWord
  cases inWord

/-! ### Words and numbers -/

/-- A leading run of digits is a digit string unless it is empty. -/
theorem isDigits_takeWhile {s : List Char} (nonempty : s.takeWhile Char.isDigit ≠ []) :
    isDigits (s.takeWhile Char.isDigit) = true := by
  simp only [isDigits, Bool.and_eq_true, Bool.not_eq_true', List.isEmpty_eq_false_iff,
    List.all_eq_true]
  exact ⟨nonempty, fun c member => List.mem_takeWhile_imp member⟩

theorem solid_of_isDigits {s : List Char} (digits : isDigits s = true) : Solid s := by
  cases s with
  | nil => exact absurd rfl (ne_nil_of_isDigits digits)
  | cons c tail =>
      have digit := mem_of_isDigits digits c (by simp)
      exact solid_cons (isSpacing_of_isWordChar (isWordChar_of_isDigit digit)) tail

/-- The reader of numbers accepts every text of a number before anything that
ends it. -/
theorem NumberText.accepts {s : List Char} {n : UInt32} (number : NumberText s n) :
    Accepts natural32 Ends s n := by
  obtain ⟨digits, value⟩ := number
  refine ⟨solid_of_isDigits digits, ?_⟩
  intro rest ends
  have nonempty : s.isEmpty = false := by simpa using ne_nil_of_isDigits digits
  rw [natural32, takeWhile_run (mem_of_isDigits digits) ends.not_digit,
    dropWhile_run (mem_of_isDigits digits) ends.not_digit, nonempty, value, UInt32.ofNat_toNat]
  simp [n.toNat_lt]

/-- The reader of numbers accepts nothing but texts of numbers. -/
theorem natural32_sound : Sound natural32 NumberText := by
  intro s n rest parsed
  simp only [natural32] at parsed
  split at parsed
  · cases parsed
  · rename_i inRange
    simp only [Bool.or_eq_true, List.isEmpty_iff, decide_eq_true_eq, not_or, Nat.not_le]
      at inRange
    cases parsed
    refine ⟨[], s.takeWhile Char.isDigit, Spacing.nil, ⟨isDigits_takeWhile inRange.1, ?_⟩, ?_⟩
    · rw [UInt32.toNat_ofNat_of_lt' inRange.2]
    · simp

/-- Where a signed number has been read up to its digits: `whole` is the text
with the sign, `digits` the text behind it, and `value` the number. -/
def signedReading (whole digits : List Char) (value : Int) : Reading Int16 :=
  if (digits.takeWhile Char.isDigit).isEmpty then .rejected digits
  else if value < -32768 || 32767 < value then .rejected whole
  else .parsed (Int16.ofInt value) (digits.dropWhile Char.isDigit)

/-- Behind a minus sign, the digits are read and their value is negated. -/
theorem integer16_negative (s : List Char) :
    integer16 ('-' :: s) =
      signedReading ('-' :: s) s (-(digitsValue (s.takeWhile Char.isDigit) : Int)) := rfl

/-- Without a minus sign, the digits are read as they are. -/
theorem integer16_unsigned {s : List Char} (noSign : s.head? ≠ some '-') :
    integer16 s = signedReading s s (digitsValue (s.takeWhile Char.isDigit)) := by
  have unsigned : (s.head? == some '-') = false := by simpa using noSign
  simp only [integer16, signedReading, unsigned, Bool.false_eq_true, if_false]

/-- A whole run of digits is consumed if its value is that of a 16-bit
integer. -/
theorem signedReading_run {digits rest : List Char} (areDigits : isDigits digits = true)
    (ends : Ends rest) (whole : List Char) (i : Int16) :
    signedReading whole (digits ++ rest) i.toInt = .parsed i rest := by
  have nonempty : digits.isEmpty = false := by simpa using ne_nil_of_isDigits areDigits
  have least : ¬ i.toInt < -32768 := Int.not_lt.mpr i.le_toInt
  have greatest : ¬ 32767 < i.toInt := by
    have := i.toInt_lt
    omega
  rw [signedReading, takeWhile_run (mem_of_isDigits areDigits) ends.not_digit,
    dropWhile_run (mem_of_isDigits areDigits) ends.not_digit, nonempty]
  simp [least, greatest]

/-- A signed reading succeeds only on a run of digits whose value fits. -/
theorem signedReading_sound {whole digits rest : List Char} {value : Int} {i : Int16}
    (parsed : signedReading whole digits value = .parsed i rest) :
    isDigits (digits.takeWhile Char.isDigit) = true ∧ value = i.toInt ∧
      digits = digits.takeWhile Char.isDigit ++ rest := by
  simp only [signedReading] at parsed
  split at parsed
  · cases parsed
  · rename_i nonempty
    split at parsed
    · cases parsed
    · rename_i inRange
      simp only [Bool.or_eq_true, decide_eq_true_eq, not_or, Int.not_lt] at inRange
      cases parsed
      refine ⟨isDigits_takeWhile (by simpa using nonempty), ?_, by simp⟩
      exact (Int16.toInt_ofInt_of_le inRange.1 (by omega)).symm

/-- The reader of integers accepts every text of an integer before anything that
ends it. -/
theorem IntegerText.accepts {s : List Char} {i : Int16} (integer : IntegerText s i) :
    Accepts integer16 Ends s i := by
  cases integer with
  | unsigned digits value =>
      refine ⟨solid_of_isDigits digits, ?_⟩
      intro rest ends
      have noSign : (s ++ rest).head? ≠ some '-' := by
        obtain ⟨c, tail, rfl, -⟩ := solid_of_isDigits digits
        intro sign
        have digit := mem_of_isDigits digits c (by simp)
        simp only [List.cons_append, List.head?_cons, Option.some.injEq] at sign
        subst sign
        exact absurd digit (by decide)
      rw [integer16_unsigned noSign, takeWhile_run (mem_of_isDigits digits) ends.not_digit, value]
      exact signedReading_run digits ends _ i
  | @negative s _ digits value =>
      refine ⟨solid_cons (by decide) s, ?_⟩
      intro rest ends
      rw [List.cons_append, integer16_negative,
        takeWhile_run (mem_of_isDigits digits) ends.not_digit, value]
      exact signedReading_run digits ends _ i

/-- The reader of integers accepts nothing but texts of integers. -/
theorem integer16_sound : Sound integer16 IntegerText := by
  intro s i rest parsed
  by_cases sign : s.head? = some '-'
  · obtain ⟨tail, rfl⟩ : ∃ tail, s = '-' :: tail := List.head?_eq_some_iff.mp sign
    rw [integer16_negative] at parsed
    obtain ⟨digits, value, split⟩ := signedReading_sound parsed
    refine ⟨[], _, Spacing.nil, .negative digits value, ?_⟩
    rw [List.nil_append, List.cons_append, ← split]
  · rw [integer16_unsigned sign] at parsed
    obtain ⟨digits, value, split⟩ := signedReading_sound parsed
    exact ⟨[], _, Spacing.nil, .unsigned digits value, split⟩

/-! ### Quoted texts -/

/-- The letter after a backslash always stands for some character. -/
theorem escapeText_unescapeLetter (c : Char) : EscapeText c (unescapeLetter c) := by
  by_cases special : c ∈ ['n', 't', 'r', '0']
  · simp only [List.mem_cons, List.not_mem_nil, or_false] at special
    rcases special with rfl | rfl | rfl | rfl
    · exact .lineFeed
    · exact .tab
    · exact .carriageReturn
    · exact .null
  · have itself : unescapeLetter c = c := by
      simp only [List.mem_cons, List.not_mem_nil, or_false, not_or] at special
      simp [unescapeLetter, special]
    rw [itself]
    exact .itself special

/-- The letter after a backslash stands for one character only. -/
theorem unescapeLetter_of_escapeText {c d : Char} (escape : EscapeText c d) :
    unescapeLetter c = d := by
  cases escape with
  | lineFeed => rfl
  | tab => rfl
  | carriageReturn => rfl
  | null => rfl
  | itself other =>
      simp only [List.mem_cons, List.not_mem_nil, or_false, not_or] at other
      simp [unescapeLetter, other]

/-- The body of a literal is read up to its closing quote, whatever follows the
quote. -/
theorem QuotedBody.reads {body text : List Char} (inner : QuotedBody body text)
    (rest : List Char) : readQuotedBody (body ++ '\'' :: rest) = .closed text rest := by
  induction inner with
  | nil => rfl
  | plain noQuote noBackslash _ inductionHypothesis =>
      rw [List.cons_append, readQuotedBody, inductionHypothesis]
      · rfl
      · exact noQuote
      · intro same
        exact absurd same noBackslash
      · intro _ _ same
        exact absurd same noBackslash
  | escaped escape _ inductionHypothesis =>
      rw [List.cons_append, List.cons_append, readQuotedBody, inductionHypothesis,
        unescapeLetter_of_escapeText escape]
      rfl

/-- A literal with one more character in front closes where the rest of it
does. -/
theorem cons_eq_closed {c : Char} {reading : QuotedReading} {text rest : List Char}
    (closed : reading.cons c = .closed text rest) :
    ∃ tail, reading = .closed tail rest ∧ text = c :: tail := by
  cases reading with
  | closed tail rest' =>
      cases closed
      exact ⟨tail, rfl, rfl⟩
  | stopped place => cases closed

/-- What is read up to a closing quote is the body of a literal. -/
theorem readQuotedBody_sound {s text rest : List Char}
    (closed : readQuotedBody s = .closed text rest) :
    ∃ body, QuotedBody body text ∧ s = body ++ '\'' :: rest := by
  induction s using readQuotedBody.induct generalizing text with
  | case1 => cases closed
  | case2 tail =>
      cases closed
      exact ⟨[], .nil, rfl⟩
  | case3 => cases closed
  | case4 c tail inductionHypothesis =>
      rw [readQuotedBody] at closed
      obtain ⟨text, closedTail, rfl⟩ := cons_eq_closed closed
      obtain ⟨body, inner, rfl⟩ := inductionHypothesis closedTail
      exact ⟨_, .escaped (escapeText_unescapeLetter c) inner, rfl⟩
  | case5 c tail noQuote noEnd noBackslash inductionHypothesis =>
      rw [readQuotedBody] at closed
      · obtain ⟨text, closedTail, rfl⟩ := cons_eq_closed closed
        obtain ⟨body, inner, rfl⟩ := inductionHypothesis closedTail
        have plain : c ≠ '\\' := by
          rintro rfl
          cases body with
          | nil => exact noBackslash _ _ rfl rfl
          | cons d body => exact noBackslash _ _ rfl rfl
        exact ⟨_, .plain noQuote plain inner, rfl⟩
      · exact noQuote
      · exact noEnd
      · exact noBackslash

/-- What is read as a literal is a body between two quotes. -/
theorem readQuoted_sound {s text rest : List Char} (closed : readQuoted s = .closed text rest) :
    ∃ body, QuotedBody body text ∧ s = '\'' :: (body ++ '\'' :: rest) := by
  unfold readQuoted at closed
  split at closed
  · obtain ⟨body, inner, rfl⟩ := readQuotedBody_sound closed
    exact ⟨body, inner, rfl⟩
  · cases closed

/-- The reader of literals accepts every literal, and no continuation can
disturb it. -/
theorem QuotedText.accepts {s : List Char} {text : String} (quoted : QuotedText s text) :
    Accepts quotation (fun _ => True) s text := by
  cases quoted with
  | quoted inner =>
      refine ⟨solid_cons (by decide) _, ?_⟩
      intro rest _
      simp [quotation, readQuoted, inner.reads rest]

/-- The reader of literals accepts nothing but literals. -/
theorem quotation_sound : Sound quotation QuotedText := by
  intro s text rest parsed
  rw [quotation] at parsed
  split at parsed
  · rename_i closed
    cases parsed
    obtain ⟨body, inner, rfl⟩ := readQuoted_sound closed
    exact ⟨[], _, Spacing.nil, .quoted inner, by simp⟩
  · cases parsed

/-! ### Pairs, lists and parentheses -/

/-- A reader of pairs accepts every text of a pair if its parts are accepted.
The hypotheses are about shorter texts only, so that an induction on the length
of a type's name can supply them. -/
theorem PairText.accepts {α β : Type} {First : List Char → α → Prop} {mark : Char}
    {Second : List Char → β → Prop} {first : Reader α} {second : Reader β}
    (Between : List Char → Prop) {Follow : List Char → Prop} {text : List Char} {a : α} {b : β}
    (pair : PairText First mark Second text (a, b)) (noSpacing : isSpacing mark = false)
    (between : ∀ spacing tail, Spacing spacing → Between (spacing ++ mark :: tail))
    (acceptsFirst : ∀ s, s.length < text.length → First s a → Accepts first Between s a)
    (acceptsSecond : ∀ s, s.length < text.length → Second s b → Accepts second Follow s b) :
    Accepts (separatedPair first (spacedMark mark) second) Follow text (a, b) := by
  cases pair with
  | @pair s before after t _ _ isFirst spacingBefore spacingAfter isSecond =>
      have left := acceptsFirst s (by simp only [List.length_append, List.length_cons]; omega) isFirst
      have right := acceptsSecond t (by simp only [List.length_append, List.length_cons]; omega) isSecond
      refine ⟨left.solid.append _, ?_⟩
      intro rest follows
      simp only [List.append_assoc, List.cons_append]
      rw [separatedPair, left.reads _ (between _ _ spacingBefore), andThen_parsed,
        spacedMark_reads noSpacing spacingBefore spacingAfter (right.solid.append rest),
        andThen_parsed, right.reads rest follows, map_parsed]

/-- A reader of pairs is sound if the readers of its parts are. -/
theorem separatedPair_sound {α β : Type} {First : List Char → α → Prop} {mark : Char}
    {Second : List Char → β → Prop} {first : Reader α} {second : Reader β}
    (soundFirst : Sound first First) (soundSecond : Sound second Second) :
    Sound (separatedPair first (spacedMark mark) second) (PairText First mark Second) := by
  intro s ab rest parsed
  obtain ⟨a, mid, parsedFirst, parsed⟩ := andThen_eq_parsed parsed
  obtain ⟨_, mid', parsedMark, parsed⟩ := andThen_eq_parsed parsed
  obtain ⟨b, parsedSecond, rfl⟩ := map_eq_parsed parsed
  obtain ⟨spacing, text, isSpaced, isFirst, rfl⟩ := soundFirst parsedFirst
  obtain ⟨before, after, spacingBefore, spacingAfter, rfl⟩ := spacedMark_sound parsedMark
  obtain ⟨spacing', text', isSpaced', isSecond, rfl⟩ := soundSecond parsedSecond
  refine ⟨spacing, _, isSpaced,
    .pair isFirst spacingBefore (spacingAfter.append isSpaced') isSecond, ?_⟩
  simp

/-- Where a list closes, no further item is read. -/
theorem moreItems_nil {α : Type} (item : Reader α) (count : Nat) {rest : List Char}
    (closes : Closes rest) : moreItems item count rest = .parsed [] rest := by
  cases count with
  | zero => rfl
  | succ count =>
      obtain ⟨place, rejected⟩ := spacedComma_rejects closes
      rw [moreItems, rejected]

/-- A list with its leading comma, read by enough steps: each item takes one. -/
theorem ListText.moreItems_reads {α β : Type} {Item : List Char → α → Prop} {item : Reader β}
    {f : α → β} {text : List Char} {as : List α} (list : ListText Item text as)
    (accepts : ∀ s a, s.length ≤ text.length → Item s a → Accepts item Continues s (f a))
    {before after : List Char} (spacingBefore : Spacing before) (spacingAfter : Spacing after)
    (count : Nat) (enough : text.length ≤ count) {rest : List Char} (closes : Closes rest) :
    moreItems item (count + 1) (before ++ ',' :: (after ++ (text ++ rest))) =
      .parsed (as.map f) rest := by
  induction list generalizing before after count with
  | @one s a isItem =>
      have accepted := accepts s a (Nat.le_refl _) isItem
      rw [moreItems, spacedComma,
        spacedMark_reads (by decide) spacingBefore spacingAfter (accepted.solid.append rest)]
      simp [accepted.reads rest closes.continues, moreItems_nil item count closes]
  | @more s before' after' tail a as isItem spacingBefore' spacingAfter' items inductionHypothesis =>
      have accepted := accepts s a (by simp) isItem
      have follows : Continues (before' ++ ',' :: (after' ++ (tail ++ rest))) :=
        ⟨before', ',', _, spacingBefore', .inl rfl, rfl⟩
      obtain ⟨count, rfl⟩ : ∃ fewer, count = fewer + 1 := by
        refine ⟨count - 1, ?_⟩
        simp only [List.length_append, List.length_cons] at enough
        omega
      have read := inductionHypothesis
        (fun s a shorter => accepts s a (by simp only [List.length_append, List.length_cons]; omega))
        spacingBefore' spacingAfter' count
        (by simp only [List.length_append, List.length_cons] at enough; omega)
      simp only [List.append_assoc, List.cons_append]
      rw [moreItems, spacedComma,
        spacedMark_reads (by decide) spacingBefore spacingAfter (accepted.solid.append _)]
      simp [accepted.reads _ follows, read]

/-- A reader of lists accepts every text of a list if its items are accepted. -/
theorem ListText.accepts {α β : Type} {Item : List Char → α → Prop} {item : Reader β}
    {f : α → β} {text : List Char} {as : List α} (list : ListText Item text as)
    (accepts : ∀ s a, s.length ≤ text.length → Item s a → Accepts item Continues s (f a)) :
    Accepts (separated item) Closes text (as.map f) := by
  cases list with
  | @one s a isItem =>
      have accepted := accepts text a (Nat.le_refl _) isItem
      refine ⟨accepted.solid, ?_⟩
      intro rest closes
      simp [separated, accepted.reads rest closes.continues, moreItems_nil item _ closes]
  | @more s before after tail a as isItem spacingBefore spacingAfter items =>
      have accepted := accepts s a (by simp) isItem
      refine ⟨accepted.solid.append _, ?_⟩
      intro rest closes
      have follows : Continues (before ++ ',' :: (after ++ (tail ++ rest))) :=
        ⟨before, ',', _, spacingBefore, .inl rfl, rfl⟩
      have shorter : ∀ s' a, s'.length ≤ tail.length → Item s' a →
          Accepts item Continues s' (f a) :=
        fun s' a shorter =>
          accepts s' a (by simp only [List.length_append, List.length_cons]; omega)
      have read := items.moreItems_reads shorter spacingBefore spacingAfter
        (before ++ (after ++ (tail ++ rest))).length (by simp only [List.length_append]; omega) closes
      have enough : (before ++ ',' :: (after ++ (tail ++ rest))).length =
          (before ++ (after ++ (tail ++ rest))).length + 1 := by
        simp only [List.length_append, List.length_cons]
        omega
      simp only [List.append_assoc, List.cons_append, separated]
      rw [accepted.reads _ follows, andThen_parsed, enough, read]
      rfl

/-- Further items are either absent or a list that stands behind a comma. -/
theorem moreItems_sound {α : Type} {Item : List Char → α → Prop} {item : Reader α}
    (sound : Sound item Item) (count : Nat) {s rest : List Char} {as : List α}
    (parsed : moreItems item count s = .parsed as rest) :
    (as = [] ∧ s = rest) ∨
      ∃ before after text, Spacing before ∧ Spacing after ∧ ListText Item text as ∧
        s = before ++ ',' :: (after ++ (text ++ rest)) := by
  induction count generalizing s as with
  | zero =>
      cases parsed
      exact .inl ⟨rfl, rfl⟩
  | succ count inductionHypothesis =>
      rw [moreItems] at parsed
      split at parsed
      · rename_i afterComma commaParsed
        obtain ⟨before, after, spacingBefore, spacingAfter, rfl⟩ := spacedMark_sound commaParsed
        split at parsed
        · rename_i a mid itemParsed
          obtain ⟨more, moreParsed, rfl⟩ := map_eq_parsed parsed
          obtain ⟨spacing, text, isSpaced, isItem, rfl⟩ := sound itemParsed
          right
          rcases inductionHypothesis moreParsed with ⟨rfl, rfl⟩ | others
          · exact ⟨before, after ++ spacing, text, spacingBefore, spacingAfter.append isSpaced,
              .one isItem, by simp⟩
          · obtain ⟨before', after', text', spacingBefore', spacingAfter', list, rfl⟩ := others
            exact ⟨before, after ++ spacing, _, spacingBefore, spacingAfter.append isSpaced,
              .more isItem spacingBefore' spacingAfter' list, by simp⟩
        · cases parsed
          exact .inl ⟨rfl, rfl⟩
        · cases parsed
      · cases parsed
        exact .inl ⟨rfl, rfl⟩
      · cases parsed

/-- A reader of lists is sound if the reader of its items is. -/
theorem separated_sound {α : Type} {Item : List Char → α → Prop} {item : Reader α}
    (sound : Sound item Item) : Sound (separated item) (ListText Item) := by
  intro s as rest parsed
  obtain ⟨a, mid, itemParsed, parsed⟩ := andThen_eq_parsed parsed
  obtain ⟨more, moreParsed, rfl⟩ := map_eq_parsed parsed
  obtain ⟨spacing, text, isSpaced, isItem, rfl⟩ := sound itemParsed
  rcases moreItems_sound sound _ moreParsed with ⟨rfl, rfl⟩ | others
  · exact ⟨spacing, text, isSpaced, .one isItem, rfl⟩
  · obtain ⟨before, after, text', spacingBefore, spacingAfter, list, rfl⟩ := others
    exact ⟨spacing, _, isSpaced, .more isItem spacingBefore spacingAfter list, by simp⟩

/-- A word with something in parentheses behind it is read to the closing
parenthesis, whatever follows. -/
theorem AppliedText.reads {α β : Type} {word : String} {Inner : List Char → α → Prop}
    {inner : Reader β} {text : List Char} {a : α} {b : β} (applied : AppliedText word Inner text a)
    (accepts : ∀ s, s.length < text.length → Inner s a → Accepts inner Closes s b) :
    ∃ body, text = word.toList ++ '(' :: body ∧
      ∀ rest, inParens inner ('(' :: (body ++ rest)) = .parsed b rest := by
  cases applied with
  | @applied before s after _ spacingBefore spacingAfter isInner =>
      have accepted := accepts s (by simp only [List.length_append, List.length_cons]; omega) isInner
      refine ⟨_, rfl, ?_⟩
      intro rest
      simp only [List.append_assoc, List.singleton_append]
      rw [inParens, mark_self, andThen_parsed,
        skipSpacing_append spacingBefore (accepted.solid.append _),
        accepted.reads _ ⟨after, rest, spacingAfter, rfl⟩, andThen_parsed,
        skipSpacing_append spacingAfter (solid_cons (by decide) _), mark_self, map_parsed]

/-- What is read between parentheses makes, with any word in front of it, an
applied text. -/
theorem inParens_sound {α : Type} {Inner : List Char → α → Prop} {inner : Reader α}
    (sound : Sound inner Inner) {s rest : List Char} {a : α}
    (parsed : inParens inner s = .parsed a rest) (word : String) :
    ∃ text, AppliedText word Inner text a ∧ word.toList ++ s = text ++ rest := by
  obtain ⟨_, mid, opened, parsed⟩ := andThen_eq_parsed parsed
  obtain ⟨a, mid', parsedInner, parsed⟩ := andThen_eq_parsed parsed
  obtain ⟨_, closed, rfl⟩ := map_eq_parsed parsed
  obtain ⟨before, spacingBefore, split⟩ := exists_spacing mid
  obtain ⟨spacing, text, isSpaced, isInner, skipped⟩ := sound parsedInner
  obtain ⟨after, spacingAfter, splitAfter⟩ := exists_spacing mid'
  refine ⟨_, .applied (spacingBefore.append isSpaced) spacingAfter isInner, ?_⟩
  rw [eq_cons_of_mark opened, split, skipped, splitAfter, eq_cons_of_mark closed]
  simp

end ColumnarSql.TypeGrammar
