/-
Module: ColumnarSql.Proofs.LiteralTokens
Purpose: Literals in a list stay apart, whatever the values contain.
Main exports:
  IsToken, Value.literal_isToken, Value.splitOutside_literals
-/
import ColumnarSql.Proofs.ClauseEntries
import ColumnarSql.Proofs.NumeralTexts
import ColumnarSql.Proofs.PercentSigns
import ColumnarSql.Proofs.ValueTexts

namespace ColumnarSql

open Text

/-! ### Tokens

A literal is not empty, closes its quotes and brackets, and has neither a comma
nor a blank outside of them.  Commas and blanks in texts are inside quotes, and
those between the items of a collection inside brackets. -/

/-- A text that stays in one piece in a list. -/
structure IsToken (s : List Char) : Prop where
  compact : Compact s
  nonempty : s ≠ []

/-- A run of numeral characters is compact. -/
theorem compact_of_numerals {s : List Char} (numerals : Numerals s) : Compact s := by
  apply Nested.of_plain
  · intro c member
    apply plain_of_class (numerals c member)
    exact forall_mem_of_all (by decide)
  · intro c member
    refine ⟨isBlank_of_isNumeral (numerals c member), ?_⟩
    rintro rfl
    exact numerals.not_mem rfl member

/-- An escaped string may stand between quotes. -/
theorem quotedPart_escapeString (s : List Char) : QuotedPart '\'' (escapeString s) := by
  induction s with
  | nil => exact .nil
  | cons c s inductionHypothesis =>
      rw [escapeString]
      cases found : escapeLetter? c with
      | some letter => exact .escaped letter inductionHypothesis
      | none =>
          have noQuote : c ≠ '\'' := by
            rintro rfl
            cases found
          have noBackslash : c ≠ '\\' := by
            rintro rfl
            cases found
          exact .plain noQuote noBackslash inductionHypothesis

/-- A quoted string is compact, whatever it holds. -/
theorem compact_quoteChars (s : List Char) : Compact (quoteChars s) :=
  Nested.quotation rfl (quotedPart_escapeString s)

/-- Doubling percent signs neither ends a quotation nor frees a character from
its backslash. -/
theorem quotedPart_doublePercents {body : List Char} (inner : QuotedPart '\'' body) :
    QuotedPart '\'' (doublePercents body) := by
  induction inner with
  | nil => exact .nil
  | @plain c s noQuote noBackslash _ inductionHypothesis =>
      rw [doublePercents]
      split
      · exact .plain (by decide) (by decide) (.plain (by decide) (by decide) inductionHypothesis)
      · exact .plain noQuote noBackslash inductionHypothesis
  | @escaped c s _ inductionHypothesis =>
      -- Of a doubled percent sign behind a backslash, the backslash takes the first.
      have backslash : doublePercents ('\\' :: c :: s) = '\\' :: doublePercents (c :: s) := rfl
      rw [backslash, doublePercents]
      split
      · exact .escaped '%' (.plain (by decide) (by decide) inductionHypothesis)
      · exact .escaped c inductionHypothesis

namespace IsToken

/-- A nonempty run of the characters of numbers is a token. -/
theorem of_numerals {s : List Char} (numerals : Numerals s) (nonempty : s ≠ []) : IsToken s :=
  ⟨compact_of_numerals numerals, nonempty⟩

/-- A part between quotes is a token. -/
theorem quotation {body : List Char} (inner : QuotedPart '\'' body) :
    IsToken ('\'' :: (body ++ ['\''])) :=
  ⟨Nested.quotation rfl inner, List.cons_ne_nil _ _⟩

/-- A word with something in brackets behind it. -/
theorem bracketed {word inner : List Char} (inWord : ∀ c ∈ word, isWordChar c = true)
    {first last : Char} (opening : isOpening first = true) (closing : isClosing last = true)
    (balanced : Balanced inner) : IsToken (word ++ first :: (inner ++ [last])) := by
  constructor
  · exact (Compact.of_word inWord).append (Nested.enclosed opening closing balanced)
  · exact List.append_ne_nil_of_right_ne_nil _ (List.cons_ne_nil _ _)

end IsToken

/-! ### Numbers -/

/-- The text of an integer is a token. -/
theorem toString_int_isToken (n : Int) : IsToken (toString n).toList := by
  apply IsToken.of_numerals (.int n)
  rw [toList_toString_int]
  split
  · exact digitsOf_ne_nil _
  · exact List.cons_ne_nil _ _

theorem positionalText_ne_nil {digits : List Char} (nonempty : digits ≠ []) (marksWhole : Bool)
    (point : Int) : Double.positionalText marksWhole digits point ≠ [] := by
  rw [Double.positionalText]
  split
  · simp [nonempty]
  · split
    · exact List.append_ne_nil_of_right_ne_nil _ (List.cons_ne_nil _ _)
    · exact List.cons_ne_nil _ _

/-- The text of a double is a token, also if it is infinite or no number. -/
theorem floatLiteral_isToken (x : Double) : IsToken (Value.floatLiteral x).toList := by
  apply IsToken.of_numerals (.floatLiteral x)
  cases x with
  | nan => decide
  | number negative rank =>
      have magnitude : (if Double.infinityRank ≤ rank.val then "inf".toList
          else Double.Layout.plain.magnitude rank.val) ≠ [] := by
        split
        · decide
        · simp only [Double.Layout.magnitude, Double.Layout.plain, Bool.or_true, if_true]
          exact positionalText_ne_nil (digitsOf_ne_nil _) false _
      rw [Value.floatLiteral, Double.Layout.write, String.toList_ofList]
      cases negative with
      | true => exact List.cons_ne_nil _ _
      | false => exact magnitude

/-- The text of a decimal is a token. -/
theorem decimal_isToken (d : Decimal) : IsToken d.text.toList := by
  apply IsToken.of_numerals (.decimal d)
  intro empty
  have read := Decimal.read?_text d
  rw [empty] at read
  cases read

/-! ### Literals -/

namespace Value

theorem word_isToken (word : String) (inWord : word.toList.all isWordChar = true)
    (nonempty : word.toList ≠ []) : IsToken word.toList :=
  ⟨.of_word (List.all_eq_true.mp inWord), nonempty⟩

/-- A string literal is a token, with or without doubled percent signs. -/
theorem stringLiteral_isToken (doubled : Bool) (s : String) :
    IsToken (stringLiteral doubled s).toList := by
  have inner := quotedPart_escapeString s.toList
  cases doubled with
  | false =>
      rw [stringLiteral, if_neg (by decide), quotedString, String.toList_ofList]
      exact .quotation inner
  | true =>
      have quotes : doublePercents (quoteChars s.toList) =
          '\'' :: (doublePercents (escapeString s.toList) ++ ['\'']) := by
        rw [quoteChars, ← List.singleton_append, doublePercents_append, doublePercents_append]
        rfl
      rw [stringLiteral, if_pos rfl, String.toList_ofList, quotes]
      exact .quotation (quotedPart_doublePercents inner)

/-- Dates and times stand in quotes as they are. -/
theorem quoted_isToken (text : List Char) (noQuote : '\'' ∉ text) (noBackslash : '\\' ∉ text) :
    IsToken ("'" ++ String.ofList text ++ "'").toList := by
  have quotes : ("'" ++ String.ofList text ++ "'").toList = '\'' :: (text ++ ['\'']) := by simp
  rw [quotes]
  exact .quotation (quotedPart_of_not_mem noQuote noBackslash)

/-- A date in quotes is a token. -/
theorem date_isToken (d : Date) : IsToken ("'" ++ d.text ++ "'").toList := by
  apply quoted_isToken
  · exact (Numerals.date d).not_mem rfl
  · exact (Numerals.date d).not_mem rfl

theorem dateTime_isToken (moment : DateTime) : IsToken ("'" ++ moment.text ' ' ++ "'").toList := by
  have absent (mark : Char) (other : isNumeral mark = false) (solid : mark ≠ ' ') :
      mark ∉ moment.date.chars ++ ' ' :: moment.time.chars := by
    rw [List.mem_append, List.mem_cons, not_or, not_or]
    exact ⟨(Numerals.date moment.date).not_mem other, solid, (Numerals.time moment.time).not_mem other⟩
  apply quoted_isToken
  · exact absent '\'' rfl (by decide)
  · exact absent '\\' rfl (by decide)

/-- Tokens in brackets, perhaps with a word in front, are a token. -/
theorem collection_isToken (before behind : String) (word : List Char) (first last : Char)
    (begins : before.toList = word ++ [first]) (ends : behind.toList = [last])
    (inWord : ∀ c ∈ word, isWordChar c = true) (opening : isOpening first = true)
    (closing : isClosing last = true) {texts : List String}
    (tokens : ∀ text ∈ texts, IsToken text.toList) :
    IsToken (before ++ joinWith ", " texts ++ behind).toList := by
  have balanced : Balanced (joinWith ", " texts).toList := by
    rw [toList_joinWith]
    apply balanced_joined isBlank_space
    rw [List.forall_mem_map]
    exact fun text member => (tokens text member).compact.balanced
  rw [String.toList_append, String.toList_append, begins, ends, List.append_assoc,
    List.append_assoc]
  exact .bracketed inWord opening closing balanced

/-- Tokens in brackets, with commas between them, are a token. -/
theorem listed_isToken {texts : List String} (tokens : ∀ text ∈ texts, IsToken text.toList) :
    IsToken ("[" ++ joinWith ", " texts ++ "]").toList :=
  collection_isToken "[" "]" [] '[' ']' rfl rfl (by simp) rfl rfl tokens

theorem grouped_isToken {texts : List String} (tokens : ∀ text ∈ texts, IsToken text.toList) :
    IsToken ("(" ++ joinWith ", " texts ++ ")").toList :=
  collection_isToken "(" ")" [] '(' ')' rfl rfl (by simp) rfl rfl tokens

theorem single_isToken {text : String} (token : IsToken text.toList) :
    IsToken ("tuple(" ++ text ++ ")").toList := by
  have alone : ∀ item ∈ [text], IsToken item.toList := by simpa using token
  have joined : joinWith ", " [text] = text := rfl
  have inBrackets := collection_isToken "tuple(" ")" "tuple".toList '(' ')' rfl rfl
    (forall_mem_of_all (by decide)) rfl rfl alone
  rwa [joined] at inBrackets

theorem mapped_isToken {texts : List String} (tokens : ∀ text ∈ texts, IsToken text.toList) :
    IsToken ("map(" ++ joinWith ", " texts ++ ")").toList :=
  collection_isToken "map(" ")" "map".toList '(' ')' rfl rfl (forall_mem_of_all (by decide)) rfl rfl
    tokens

mutual

/-- The literal of a value is one token. -/
theorem literal_isToken (doubled : Bool) : ∀ value : Value, IsToken (value.literal doubled).toList
  | .null => word_isToken "NULL" (by decide) (by decide)
  | .bool true => word_isToken "true" (by decide) (by decide)
  | .bool false => word_isToken "false" (by decide) (by decide)
  | .int n => toString_int_isToken n.toInt
  | .uint n => toString_int_isToken n.toNat
  | .float x => floatLiteral_isToken x
  | .string s => stringLiteral_isToken doubled s
  | .decimal d => decimal_isToken d
  | .date d => date_isToken d
  | .dateTime moment => dateTime_isToken moment
  | .array items => listed_isToken (literals_areTokens doubled items)
  -- A tuple of one item has a form of its own.
  | .tuple [] => grouped_isToken (literals_areTokens doubled [])
  | .tuple [item] => single_isToken (literal_isToken doubled item)
  | .tuple (item :: next :: rest) => grouped_isToken (literals_areTokens doubled (item :: next :: rest))
  | .map entries => mapped_isToken (entryLiterals_areTokens doubled entries)

/-- The literals of all items are tokens. -/
theorem literals_areTokens (doubled : Bool) :
    ∀ items : List Value, ∀ text ∈ literals doubled items, IsToken text.toList
  | [] => by simp [literals]
  | item :: rest => by
      simp only [literals, List.forall_mem_cons]
      exact ⟨literal_isToken doubled item, literals_areTokens doubled rest⟩

/-- The literals of all keys and values of a map are tokens. -/
theorem entryLiterals_areTokens (doubled : Bool) :
    ∀ entries : List (Value × Value), ∀ text ∈ entryLiterals doubled entries, IsToken text.toList
  | [] => by simp [entryLiterals]
  | (key, value) :: rest => by
      simp only [entryLiterals, List.forall_mem_cons]
      exact ⟨literal_isToken doubled key, literal_isToken doubled value,
        entryLiterals_areTokens doubled rest⟩

end

/-! ### Lists of literals -/

theorem literals_eq_map (doubled : Bool) (items : List Value) :
    literals doubled items = items.map (literal doubled) := by
  induction items with
  | nil => rfl
  | cons item rest inductionHypothesis => rw [literals, inductionHypothesis, List.map_cons]

/-- Joined tokens come apart at their commas into the tokens. -/
theorem splitOutside_joinWith {texts : List String} (tokens : ∀ text ∈ texts, IsToken text.toList) :
    splitOutside ',' (joinWith ", " texts).toList = texts.map String.toList := by
  rw [toList_joinWith]
  apply splitOutside_joined isBlank_space
  · rw [List.forall_mem_map]
    exact fun text member => (tokens text member).compact.noComma
  · rw [List.forall_mem_map]
    intro text member
    exact ⟨(tokens text member).nonempty, (tokens text member).compact.trim_eq⟩

/-- A list of literals comes apart into the literals of its values, by itself
and between the brackets of an array. -/
theorem splitOutside_literals (doubled : Bool) (values : List Value) :
    splitOutside ',' (joinWith ", " (values.map (literal doubled))).toList =
        values.map (fun value => (value.literal doubled).toList) ∧
      ∃ inner, (literal doubled (.array values)).toList = '[' :: (inner ++ [']']) ∧
        splitOutside ',' inner = values.map (fun value => (value.literal doubled).toList) := by
  have tokens := literals_areTokens doubled values
  rw [literals_eq_map] at tokens
  have apart := splitOutside_joinWith tokens
  rw [List.map_map] at apart
  refine ⟨apart, (joinWith ", " (values.map (literal doubled))).toList, ?_, apart⟩
  rw [literal, literals_eq_map, String.toList_append, String.toList_append]
  rfl

/-- Quotes, brackets, commas and line feeds in a text. -/
example : splitOutside ',' (joinWith ", "
    (List.map (literal true) [.string "a', [b\\", .tuple [.string ")\n,%", .null], .array []])).toList =
      ["'a\\', [b\\\\'".toList, "(')\\n,%%', NULL)".toList, "[]".toList] := by
  decide

end Value

end ColumnarSql
