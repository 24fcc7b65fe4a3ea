/-
Module: ColumnarSql.Proofs.TypeReading
Purpose: Reading a type name succeeds exactly on the texts of the grammar, with
  the type that the grammar gives.
Main exports:
  reader_sound, TypeText.accepts, parse_eq_ok_iff_typeText
-/
import ColumnarSql.ColumnType.Reader
import ColumnarSql.Proofs.Reading

namespace ColumnarSql.TypeGrammar

open Text Reader ColumnType

/-! ### First words -/

/-- The first word of a type name, by what it means. -/
def Spells (name : List Char) : TypeWord → Prop
  | .plain type => ScalarText name type
  | .string => name = "String".toList
  | .fixedString => name = "FixedString".toList
  | .dateTime => name = "DateTime".toList
  | .dateTime64 => name = "DateTime64".toList
  | .decimal => name = "Decimal".toList
  | .decimalOf precision =>
      precision = 9 ∧ name = "Decimal32".toList ∨ precision = 18 ∧ name = "Decimal64".toList ∨
        precision = 38 ∧ name = "Decimal128".toList
  | .enumeration width => name = width.name.toList
  | .array => name = "Array".toList
  | .nullable => name = "Nullable".toList
  | .lowCardinality => name = "LowCardinality".toList
  | .tuple => name = "Tuple".toList
  | .map => name = "Map".toList

theorem eq_toList_of_ofList_eq {name : List Char} {word : String}
    (same : String.ofList name = word) : name = word.toList := by
  rw [← same, String.toList_ofList]

/-- A word has the meaning that the table gives it. -/
theorem spells_of_typeWord? {name : List Char} {word : TypeWord}
    (found : typeWord? name = some word) : Spells name word := by
  unfold typeWord? at found
  split at found
  case h_37 => cases found
  all_goals
    rename_i same
    cases found
    rw [eq_toList_of_ofList_eq same]
  case h_1 => exact ScalarText.integer .int8
  case h_2 => exact ScalarText.integer .int16
  case h_3 => exact ScalarText.integer .int32
  case h_4 => exact ScalarText.integer .int64
  case h_5 => exact ScalarText.integer .int128
  case h_6 => exact ScalarText.integer .int256
  case h_7 => exact ScalarText.integer .uint8
  case h_8 => exact ScalarText.integer .uint16
  case h_9 => exact ScalarText.integer .uint32
  case h_10 => exact ScalarText.integer .uint64
  case h_11 => exact ScalarText.integer .uint128
  case h_12 => exact ScalarText.integer .uint256
  case h_13 => exact ScalarText.float .float32
  case h_14 => exact ScalarText.float .float64
  case h_15 => exact ScalarText.bool
  case h_16 => exact ScalarText.boolean
  case h_18 => exact ScalarText.uuid
  case h_19 => exact ScalarText.date
  case h_20 => exact ScalarText.date32
  case h_21 => exact ScalarText.ipv4
  case h_22 => exact ScalarText.ipv6
  case h_27 => exact .inl ⟨rfl, rfl⟩
  case h_28 => exact .inr (.inl ⟨rfl, rfl⟩)
  case h_29 => exact .inr (.inr ⟨rfl, rfl⟩)
  all_goals exact rfl

/-! ### Every reading is a derivation -/

/-- Something optional was read, or nothing was consumed. -/
theorem optional_eq_parsed {α : Type} {inner : Reader α} {s rest : List Char} {o : Option α}
    (parsed : Reader.optional inner s = .parsed o rest) :
    (o = none ∧ s = rest) ∨ ∃ a, o = some a ∧ inner s = .parsed a rest := by
  unfold Reader.optional at parsed
  split at parsed
  · rename_i a mid parsedInner
    cases parsed
    exact .inr ⟨a, rfl, parsedInner⟩
  · cases parsed
    exact .inl ⟨rfl, rfl⟩
  · cases parsed

/-- What is read as a word is one. -/
theorem word_sound {s name rest : List Char} (parsed : Reader.word s = .parsed name rest) :
    isWord name = true ∧ s = name ++ rest := by
  simp only [Reader.word] at parsed
  split at parsed
  · cases parsed
  · rename_i nonempty
    cases parsed
    refine ⟨?_, by simp⟩
    simp only [isWord, Bool.and_eq_true, Bool.not_eq_true', List.all_eq_true]
    exact ⟨by simpa using nonempty, fun c member => List.mem_takeWhile_imp member⟩

/-- An element of a tuple, with a name or without. -/
inductive ElementText : List Char → Element → Prop
  | named {s : List Char} {name : String} {type : ColumnType}
      (text : NamedText TypeText s (name, type)) : ElementText s (some name, type)
  | unnamed {s : List Char} {type : ColumnType} (text : TypeText s type) :
      ElementText s (none, type)

/-- A reading of a named element is a derivation of one. -/
theorem namedElement_sound {inner : Reader ColumnType} (sound : Sound inner TypeText) :
    Sound (namedElement inner) ElementText := by
  intro s e rest parsed
  obtain ⟨name, mid, parsedName, parsedType⟩ := andThen_eq_parsed parsed
  obtain ⟨isName, rfl⟩ := word_sound parsedName
  split at parsedType
  · cases parsedType
  · rename_i c tail
    split at parsedType
    · rename_i isSpaced
      obtain ⟨type, parsedInner, rfl⟩ := map_eq_parsed parsedType
      obtain ⟨spacing, text, spaced, isType, skipped⟩ := sound parsedInner
      obtain ⟨tailSpacing, tailSpaced, split⟩ := exists_spacing tail
      have skipsFirst : skipSpacing (c :: tail) = skipSpacing tail := by
        simp [skipSpacing, isSpaced]
      have firstSpaced : Spacing [c] := by simpa [Spacing] using isSpaced
      have isElementName : isWord (String.ofList name).toList = true := by simpa using isName
      rw [← skipsFirst, skipped] at split
      refine ⟨[], _, Spacing.nil, .named (.named isElementName
        (firstSpaced.append (tailSpaced.append spaced)) (by simp) isType), ?_⟩
      simp [split]
    · cases parsedType

/-- A reading of an element is a derivation of one, with or without a name. -/
theorem element_sound {inner : Reader ColumnType} (sound : Sound inner TypeText) :
    Sound (element inner) ElementText := by
  intro s e rest parsed
  rw [element] at parsed
  split at parsed
  · rename_i parsedNamed
    cases parsed
    exact namedElement_sound sound parsedNamed
  · obtain ⟨type, parsedInner, rfl⟩ := map_eq_parsed parsed
    obtain ⟨spacing, text, isSpaced, isType, rfl⟩ := sound parsedInner
    exact ⟨spacing, text, isSpaced, .unnamed isType, rfl⟩
  · cases parsed

/-- Elements without names are a list of types. -/
theorem ListText.of_unnamed {text : List Char} {elements : List Element}
    (list : ListText ElementText text elements) (unnamed : ∀ e ∈ elements, e.1.isNone = true) :
    ListText TypeText text (elements.map Prod.snd) := by
  induction list with
  | one item =>
      cases item with
      | named text => simp at unnamed
      | unnamed text => exact .one text
  | more item spacingBefore spacingAfter items inductionHypothesis =>
      have rest := inductionHypothesis fun e member => unnamed e (List.mem_cons_of_mem _ member)
      cases item with
      | named text => simp at unnamed
      | unnamed text => exact .more text spacingBefore spacingAfter rest

/-- Elements that all have names are a list of named types. -/
theorem ListText.of_named {text : List Char} {elements : List Element}
    {items : List (String × ColumnType)} (list : ListText ElementText text elements)
    (named : allNamed elements = some items) : ListText (NamedText TypeText) text items := by
  induction list generalizing items with
  | one item =>
      cases item with
      | named text =>
          cases named
          exact .one text
      | unnamed text => cases named
  | more item spacingBefore spacingAfter _ inductionHypothesis =>
      cases item with
      | named text =>
          obtain ⟨rest, namedRest, rfl⟩ := Option.map_eq_some_iff.mp named
          exact .more text spacingBefore spacingAfter (inductionHypothesis namedRest)
      | unnamed text => cases named

/-- A reading of the elements of a tuple is a derivation of a tuple type. -/
theorem tupleBody_sound {inner : Reader ColumnType} (sound : Sound inner TypeText)
    {s rest : List Char} {type : ColumnType} (parsed : tupleBody inner s = .parsed type rest) :
    ∃ text, TypeText text type ∧ "Tuple".toList ++ s = text ++ rest := by
  obtain ⟨elements, mid, parsedElements, parsedType⟩ := andThen_eq_parsed parsed
  obtain ⟨text, applied, split⟩ :=
    inParens_sound (separated_sound (element_sound sound)) parsedElements "Tuple"
  split at parsedType
  · rename_i type' found
    cases parsedType
    refine ⟨text, ?_, split⟩
    cases applied with
    | applied spacingBefore spacingAfter list =>
        rw [ofElements?] at found
        split at found
        · rename_i unnamed
          cases found
          exact .tuple (.applied spacingBefore spacingAfter
            (list.of_unnamed (List.all_eq_true.mp unnamed)))
        · obtain ⟨items, named, rfl⟩ := Option.map_eq_some_iff.mp found
          exact .namedTuple (.applied spacingBefore spacingAfter (list.of_named named))
  · cases parsedType

/-- The parameters in the parentheses of a date with time and fraction. -/
inductive PrecisionText : List Char → UInt32 × Option String → Prop
  | precision {s : List Char} {p : UInt32} (number : NumberText s p) : PrecisionText s (p, none)
  | zoned {s : List Char} {p : UInt32} {zone : String}
      (pair : PairText NumberText ',' QuotedText s (p, zone)) : PrecisionText s (p, some zone)

/-- A reading of a precision is a derivation, with or without a time zone. -/
theorem precisionAndZone_sound : Sound precisionAndZone PrecisionText := by
  intro s a rest parsed
  obtain ⟨p, mid, parsedNumber, parsedZone⟩ := andThen_eq_parsed parsed
  obtain ⟨zone, parsedOption, rfl⟩ := map_eq_parsed parsedZone
  obtain ⟨spacing, text, isSpaced, isNumber, rfl⟩ := natural32_sound parsedNumber
  rcases optional_eq_parsed parsedOption with ⟨rfl, rfl⟩ | ⟨zone, rfl, parsedPair⟩
  · exact ⟨spacing, text, isSpaced, .precision isNumber, rfl⟩
  · obtain ⟨_, mid, parsedComma, parsedQuoted⟩ := andThen_eq_parsed parsedPair
    obtain ⟨before, after, spacingBefore, spacingAfter, rfl⟩ := spacedMark_sound parsedComma
    obtain ⟨spacing', text', isSpaced', isQuoted, rfl⟩ := quotation_sound parsedQuoted
    exact ⟨spacing, _, isSpaced,
      .zoned (.pair isNumber spacingBefore (spacingAfter.append isSpaced') isQuoted), by simp⟩

/-- Parameters in parentheses complete the word in front of them. -/
theorem parameters_sound {α : Type} {inner : Reader α} {Rule : List Char → α → Prop}
    (sound : Sound inner Rule) {make : α → ColumnType} {s rest : List Char} {type : ColumnType}
    (parsed : (inParens inner s).map make = .parsed type rest) {word : String}
    (derives : ∀ {text a}, AppliedText word Rule text a → TypeText text (make a)) :
    ∃ text, TypeText text type ∧ word.toList ++ s = text ++ rest := by
  obtain ⟨a, parsedParens, rfl⟩ := map_eq_parsed parsed
  obtain ⟨text, applied, split⟩ := inParens_sound sound parsedParens word
  exact ⟨text, derives applied, split⟩

/-- Parameters in parentheses may also be missing. -/
theorem optionalParameters_sound {α : Type} {inner : Reader α} {Rule : List Char → α → Prop}
    (sound : Sound inner Rule) {make : Option α → ColumnType} {s rest : List Char}
    {type : ColumnType}
    (parsed : (Reader.optional (inParens inner) s).map make = .parsed type rest) {word : String}
    (derives : TypeText word.toList (make none))
    (derivesWith : ∀ {text a}, AppliedText word Rule text a → TypeText text (make (some a))) :
    ∃ text, TypeText text type ∧ word.toList ++ s = text ++ rest := by
  obtain ⟨found, parsedOption, rfl⟩ := map_eq_parsed parsed
  rcases optional_eq_parsed parsedOption with ⟨rfl, rfl⟩ | ⟨a, rfl, parsedParens⟩
  · exact ⟨word.toList, derives, rfl⟩
  · obtain ⟨text, applied, split⟩ := inParens_sound sound parsedParens word
    exact ⟨text, derivesWith applied, split⟩

/-- With a precision in parentheses the name is that of a moment's type, with or
without a time zone. -/
theorem AppliedText.of_precision {text : List Char} {a : UInt32 × Option String}
    (applied : AppliedText "DateTime64" PrecisionText text a) :
    ScalarText text (.dateTime64 a.1 a.2) := by
  cases applied with
  | applied spacingBefore spacingAfter precision =>
      cases precision with
      | precision number => exact .dateTime64 (.applied spacingBefore spacingAfter number)
      | zoned pair => exact .zonedDateTime64 (.applied spacingBefore spacingAfter pair)

/-- What follows the first word of a type completes it to a type name. -/
theorem bodyReader_sound {inner : Reader ColumnType} (sound : Sound inner TypeText)
    {name s rest : List Char} {word : TypeWord} {type : ColumnType} (spelled : Spells name word)
    (parsed : bodyReader inner word s = .parsed type rest) :
    ∃ text, TypeText text type ∧ name ++ s = text ++ rest := by
  cases word with
  | plain scalar =>
      cases parsed
      exact ⟨name, .scalar spelled, rfl⟩
  | string =>
      subst spelled
      exact optionalParameters_sound natural32_sound parsed (.scalar .string)
        fun applied => .scalar (.boundedString applied)
  | fixedString =>
      subst spelled
      exact parameters_sound natural32_sound parsed fun applied => .scalar (.fixedString applied)
  | dateTime =>
      subst spelled
      exact optionalParameters_sound quotation_sound parsed (.scalar .dateTime)
        fun applied => .scalar (.zonedDateTime applied)
  | dateTime64 =>
      subst spelled
      exact parameters_sound precisionAndZone_sound parsed
        fun applied => .scalar applied.of_precision
  | decimal =>
      subst spelled
      exact parameters_sound (separatedPair_sound natural32_sound natural32_sound) parsed
        fun applied => .scalar (.decimal applied)
  | decimalOf precision =>
      rcases spelled with ⟨rfl, rfl⟩ | ⟨rfl, rfl⟩ | ⟨rfl, rfl⟩
      · exact parameters_sound natural32_sound parsed fun applied => .scalar (.decimal32 applied)
      · exact parameters_sound natural32_sound parsed fun applied => .scalar (.decimal64 applied)
      · exact parameters_sound natural32_sound parsed fun applied => .scalar (.decimal128 applied)
  | enumeration width =>
      subst spelled
      have member_sound : Sound member MemberText :=
        separatedPair_sound quotation_sound integer16_sound
      exact parameters_sound (separated_sound member_sound) parsed
        fun applied => .scalar (.enumeration applied)
  | array =>
      subst spelled
      exact parameters_sound sound parsed .array
  | nullable =>
      subst spelled
      exact parameters_sound sound parsed .nullable
  | lowCardinality =>
      subst spelled
      exact parameters_sound sound parsed .lowCardinality
  | tuple =>
      subst spelled
      exact tupleBody_sound sound parsed
  | map =>
      subst spelled
      exact parameters_sound (separatedPair_sound sound sound) parsed .map

/-- Whatever the reader consumes is a type name after spacing, at any depth. -/
theorem reader_sound (depth : Nat) : Sound (reader depth) TypeText := by
  induction depth with
  | zero =>
      intro s type rest parsed
      cases parsed
  | succ depth inductionHypothesis =>
      intro s type rest parsed
      obtain ⟨name, mid, parsedWord, parsedBody⟩ := andThen_eq_parsed parsed
      obtain ⟨spacing, isSpaced, split⟩ := exists_spacing s
      obtain ⟨-, skipped⟩ := word_sound parsedWord
      split at parsedBody
      · rename_i word found
        obtain ⟨text, isType, joined⟩ :=
          bodyReader_sound inductionHypothesis (spells_of_typeWord? found) parsedBody
        refine ⟨spacing, text, isSpaced, isType, ?_⟩
        rw [split, skipped, joined]
      · cases parsedBody

/-! ### Every derivation is read -/

theorem mem_of_isWord {name : List Char} (isName : isWord name = true) :
    ∀ c ∈ name, isWordChar c = true := by
  simp only [isWord, Bool.and_eq_true, List.all_eq_true] at isName
  exact isName.2

theorem solid_of_isWord {name : List Char} (isName : isWord name = true) : Solid name := by
  cases name with
  | nil => simp [isWord] at isName
  | cons c tail =>
      exact solid_cons (isSpacing_of_isWordChar (mem_of_isWord isName c (by simp))) tail

theorem stops_cons {c : Char} (noWord : isWordChar c = false) (tail : List Char) :
    ∀ d ∈ (c :: tail).head?, isWordChar d = false := by
  simpa using noWord

/-- A word is read as a whole where it stops. -/
theorem word_reads {name body : List Char} (isName : isWord name = true)
    (stops : ∀ c ∈ body.head?, isWordChar c = false) :
    Reader.word (name ++ body) = .parsed name body := by
  have nonempty : name.isEmpty = false := by
    obtain ⟨c, tail, rfl, -⟩ := solid_of_isWord isName
    rfl
  rw [Reader.word, takeWhile_run (mem_of_isWord isName) stops,
    dropWhile_run (mem_of_isWord isName) stops, nonempty]
  rfl

/-- A type name is read by its first word and what follows that word. -/
theorem reader_succ (depth : Nat) (s : List Char) :
    reader (depth + 1) s =
      (Reader.word (skipSpacing s)).andThen fun name rest =>
        match typeWord? name with
        | some word => bodyReader (reader depth) word rest
        | none => .rejected (skipSpacing s) := rfl

/-- Behind a known word the reader goes on with its parameters. -/
theorem reader_word (depth : Nat) {name body : List Char} {word : TypeWord}
    (isName : isWord name = true) (found : typeWord? name = some word)
    (stops : ∀ c ∈ body.head?, isWordChar c = false) :
    reader (depth + 1) (name ++ body) = bodyReader (reader depth) word body := by
  have skipped : skipSpacing (name ++ body) = name ++ body :=
    skipSpacing_append Spacing.nil ((solid_of_isWord isName).append body)
  rw [reader_succ, skipped, word_reads isName stops, andThen_parsed, found]

/-- Where no word starts there is no type name. -/
theorem reader_rejects (depth : Nat) {c : Char} (noWord : isWordChar c = false)
    (noSpacing : isSpacing c = false) (tail : List Char) :
    ∃ place, reader depth (c :: tail) = .rejected place := by
  cases depth with
  | zero => exact ⟨_, rfl⟩
  | succ depth =>
      have skipped : skipSpacing (c :: tail) = c :: tail :=
        skipSpacing_append Spacing.nil (solid_cons noSpacing tail)
      refine ⟨c :: tail, ?_⟩
      rw [reader_succ, skipped, Reader.word]
      simp [noWord, Reading.andThen]

/-- Where a word ends without a parenthesis, there are no parameters. -/
theorem inParens_rejects {α : Type} (inner : Reader α) {rest : List Char} (ends : Ends rest) :
    ∃ place, inParens inner rest = .rejected place := by
  cases rest with
  | nil => exact ⟨[], rfl⟩
  | cons c tail =>
      refine ⟨c :: tail, ?_⟩
      have noParen : c ≠ '(' := by
        rintro rfl
        rcases ends '(' (by simp) with spacing | same | same
        · exact absurd spacing (by decide)
        · exact absurd same (by decide)
        · exact absurd same (by decide)
      rw [inParens, mark_rejects noParen]
      rfl

/-- The name of a type without parameters is read. -/
theorem plain_accepts (depth : Nat) {name : List Char} {type : Scalar}
    (isName : isWord name = true) (found : typeWord? name = some (.plain type)) :
    Accepts (reader (depth + 1)) Ends name (.scalar type) := by
  refine ⟨solid_of_isWord isName, ?_⟩
  intro rest ends
  rw [reader_word depth isName found ends.not_word]
  rfl

/-- A type with parameters is read if its parameters are; all such types go
through here. -/
theorem applied_accepts {α β : Type} (depth : Nat) {word : String} {typeWord : TypeWord}
    {Inner : List Char → α → Prop} {inner : Reader β} {text : List Char} {a : α} {b : β}
    {type : ColumnType} {Follow : List Char → Prop} (applied : AppliedText word Inner text a)
    (isName : isWord word.toList = true) (found : typeWord? word.toList = some typeWord)
    (accepts : ∀ s, s.length < text.length → Inner s a → Accepts inner Closes s b)
    (completes : ∀ {s rest}, inParens inner s = .parsed b rest →
      bodyReader (reader depth) typeWord s = .parsed type rest) :
    Accepts (reader (depth + 1)) Follow text type := by
  obtain ⟨body, rfl, reads⟩ := applied.reads accepts
  refine ⟨(solid_of_isWord isName).append _, ?_⟩
  intro rest _
  rw [List.append_assoc, List.cons_append,
    reader_word depth isName found (stops_cons (by decide) _)]
  exact completes (reads rest)

theorem NumberText.accepts_closed {s : List Char} {n : UInt32} (number : NumberText s n) :
    Accepts natural32 Closes s n :=
  number.accepts.mono fun _ closes => closes.continues.ends

theorem QuotedText.accepts_closed {s : List Char} {text : String} (quoted : QuotedText s text) :
    Accepts quotation Closes s text :=
  quoted.accepts.mono fun _ _ => trivial

theorem ends_of_comma {spacing tail : List Char} (isSpaced : Spacing spacing) :
    Ends (spacing ++ ',' :: tail) :=
  Continues.ends ⟨spacing, ',', tail, isSpaced, .inl rfl, rfl⟩

/-- A precision is read, with or without a time zone. -/
theorem PrecisionText.accepts {s : List Char} {a : UInt32 × Option String}
    (precision : PrecisionText s a) : Accepts precisionAndZone Closes s a := by
  cases precision with
  | precision number =>
      refine ⟨number.accepts.solid, ?_⟩
      intro rest closes
      obtain ⟨place, rejected⟩ := spacedComma_rejects closes
      rw [precisionAndZone, number.accepts.reads rest closes.continues.ends]
      simp [Reader.optional, rejected, Reading.andThen]
  | zoned pair =>
      cases pair with
      | pair number spacingBefore spacingAfter quoted =>
          refine ⟨number.accepts.solid.append _, ?_⟩
          intro rest _
          simp only [List.append_assoc, List.cons_append]
          rw [precisionAndZone, number.accepts.reads _ (ends_of_comma spacingBefore)]
          simp [Reader.optional, spacedComma, quoted.accepts.reads,
            spacedMark_reads (c := ',') (by decide) spacingBefore spacingAfter
              (quoted.accepts.solid.append rest)]

/-- A member of an enumeration is read. -/
theorem MemberText.accepts {s : List Char} {member : String × Int16} (text : MemberText s member) :
    Accepts ColumnType.member Continues s member := by
  refine PairText.accepts (fun _ => True) text (by decide) (fun _ _ _ => trivial) ?_ ?_
  · exact fun s _ quoted => quoted.accepts
  · exact fun s _ integer => integer.accepts.mono fun _ continues => continues.ends

/-- Names of scalar types are read at any depth. -/
theorem ScalarText.accepts (depth : Nat) {s : List Char} {type : Scalar}
    (text : ScalarText s type) : Accepts (reader (depth + 1)) Ends s (.scalar type) := by
  cases text with
  | integer type => cases type <;> exact plain_accepts depth rfl rfl
  | float width => cases width <;> exact plain_accepts depth rfl rfl
  | bool | boolean | uuid | date | date32 | ipv4 | ipv6 => exact plain_accepts depth rfl rfl
  | string =>
      refine ⟨solid_of_isWord rfl, ?_⟩
      intro rest ends
      obtain ⟨place, rejected⟩ := inParens_rejects natural32 ends
      rw [reader_word depth rfl rfl ends.not_word]
      simp [bodyReader, Reader.optional, rejected]
  | dateTime =>
      refine ⟨solid_of_isWord rfl, ?_⟩
      intro rest ends
      obtain ⟨place, rejected⟩ := inParens_rejects quotation ends
      rw [reader_word depth rfl rfl ends.not_word]
      simp [bodyReader, Reader.optional, rejected]
  | boundedString text =>
      refine applied_accepts depth text rfl rfl (fun s _ number => number.accepts_closed) ?_
      intro s rest parsed
      simp [bodyReader, Reader.optional, parsed]
  | fixedString text | decimal32 text | decimal64 text | decimal128 text =>
      refine applied_accepts depth text rfl rfl (fun s _ number => number.accepts_closed) ?_
      intro s rest parsed
      simp [bodyReader, parsed]
  | zonedDateTime text =>
      refine applied_accepts depth text rfl rfl (fun s _ quoted => quoted.accepts_closed) ?_
      intro s rest parsed
      simp [bodyReader, Reader.optional, parsed]
  | dateTime64 text =>
      refine applied_accepts depth text rfl rfl
        (fun s _ number => (PrecisionText.precision number).accepts) ?_
      intro s rest parsed
      simp [bodyReader, parsed]
  | zonedDateTime64 text =>
      refine applied_accepts depth text rfl rfl
        (fun s _ pair => (PrecisionText.zoned pair).accepts) ?_
      intro s rest parsed
      simp [bodyReader, parsed]
  | decimal text =>
      refine applied_accepts depth text rfl rfl (fun s _ pair => PairText.accepts Ends pair
        (by decide) (fun _ _ => ends_of_comma) (fun s _ number => number.accepts)
        (fun s _ number => number.accepts_closed)) ?_
      intro s rest parsed
      simp [bodyReader, spacedComma, parsed]
  | @enumeration s width members text =>
      have isName : isWord width.name.toList = true := by cases width <;> rfl
      have found : typeWord? width.name.toList = some (.enumeration width) := by cases width <;> rfl
      refine applied_accepts depth text isName found
        (fun s _ list => ListText.accepts list fun s a _ text => MemberText.accepts text) ?_
      intro s rest parsed
      simp [bodyReader, parsed]

/-- A type name is a word, or a word with parentheses directly behind it that
close at the end. -/
def StartsWithWord (text : List Char) : Prop :=
  ∃ name body, isWord name = true ∧ (body = [] ∨ ∃ inner, body = '(' :: (inner ++ [')'])) ∧
    text = name ++ body

theorem startsWithWord_of_isWord {name : List Char} (isName : isWord name = true) :
    StartsWithWord name :=
  ⟨name, [], isName, .inl rfl, by simp⟩

theorem AppliedText.startsWithWord {α : Type} {word : String} {Inner : List Char → α → Prop}
    {text : List Char} {a : α} (applied : AppliedText word Inner text a)
    (isName : isWord word.toList = true) : StartsWithWord text := by
  cases applied with
  | @applied before s after _ spacingBefore spacingAfter inner =>
      exact ⟨_, _, isName, .inr ⟨before ++ (s ++ after), by simp⟩, rfl⟩

theorem ScalarText.startsWithWord {text : List Char} {type : Scalar}
    (scalar : ScalarText text type) : StartsWithWord text := by
  cases scalar with
  | integer type => cases type <;> exact startsWithWord_of_isWord rfl
  | float width => cases width <;> exact startsWithWord_of_isWord rfl
  | bool | boolean | uuid | date | date32 | ipv4 | ipv6 | string | dateTime =>
      exact startsWithWord_of_isWord rfl
  | boundedString text | fixedString text | decimal32 text | decimal64 text | decimal128 text
  | zonedDateTime text | dateTime64 text | zonedDateTime64 text | decimal text =>
      exact text.startsWithWord rfl
  | @enumeration _ width _ text => exact text.startsWithWord (by cases width <;> rfl)

/-- Every type name starts with a word. -/
theorem TypeText.startsWithWord {text : List Char} {type : ColumnType}
    (typed : TypeText text type) : StartsWithWord text := by
  cases typed with
  | scalar text => exact text.startsWithWord
  | array text | nullable text | lowCardinality text | map text | tuple text | namedTuple text =>
      exact text.startsWithWord rfl

/-- The attempt to read a name in front of a type fails on a type without one:
behind its first word there is a parenthesis, or the end of the element. -/
theorem namedElement_rejects (depth : Nat) {text rest : List Char}
    (starts : StartsWithWord text) (continues : Continues rest) :
    ∃ place, namedElement (reader depth) (text ++ rest) = .rejected place := by
  obtain ⟨name, body, isName, shape, rfl⟩ := starts
  rcases shape with rfl | ⟨inner, rfl⟩
  · rw [List.append_nil, namedElement, word_reads isName continues.ends.not_word, andThen_parsed]
    obtain ⟨spacing, c, tail, isSpaced, isMark, rfl⟩ := continues
    have noSpacing : isSpacing c = false := by rcases isMark with rfl | rfl <;> decide
    have noWord : isWordChar c = false := by rcases isMark with rfl | rfl <;> decide
    rw [skipSpacing_append isSpaced (solid_cons noSpacing tail)]
    obtain ⟨place, rejected⟩ := reader_rejects depth noWord noSpacing tail
    cases spacing with
    | nil => exact ⟨c :: tail, by simp [noSpacing]⟩
    | cons d spacing =>
        exact ⟨place, by simp [isSpaced d (by simp), rejected, Reading.map, Reading.andThen]⟩
  · rw [List.append_assoc, List.cons_append, namedElement,
      word_reads isName (stops_cons (by decide) _)]
    exact ⟨_, by simp [isSpacing]; rfl⟩

/-- An element without a name is read, since its type is not taken for a name.
-/
theorem unnamed_accepts (depth : Nat) {text : List Char} {type : ColumnType}
    (starts : StartsWithWord text) (accepts : Accepts (reader depth) Ends text type) :
    Accepts (element (reader depth)) Continues text (none, type) := by
  refine ⟨accepts.solid, ?_⟩
  intro rest continues
  obtain ⟨place, rejected⟩ := namedElement_rejects depth starts continues
  rw [element, rejected, accepts.reads rest continues.ends]
  rfl

/-- An element with a name is read with it. -/
theorem named_accepts (depth : Nat) {text : List Char} {item : String × ColumnType}
    (named : NamedText TypeText text item)
    (accepts : ∀ s, s.length ≤ text.length → TypeText s item.2 →
      Accepts (reader depth) Ends s item.2) :
    Accepts (element (reader depth)) Continues text (some item.1, item.2) := by
  cases named with
  | @named name spacing s type isName isSpaced nonempty typed =>
      have inner := accepts s (by simp only [List.length_append]; omega) typed
      refine ⟨(solid_of_isWord isName).append _, ?_⟩
      intro rest continues
      obtain ⟨c, spacing, rfl⟩ := List.exists_cons_of_ne_nil nonempty
      have firstSpaced := isSpaced c (by simp)
      have skipped : skipSpacing (c :: (spacing ++ (s ++ rest))) = s ++ rest :=
        skipSpacing_append isSpaced (inner.solid.append rest)
      simp only [List.append_assoc, List.cons_append]
      rw [element, namedElement,
        word_reads isName (stops_cons (isWordChar_of_isSpacing firstSpaced) _)]
      simp [firstSpaced, skipped, inner.reads rest continues.ends]

/-- Elements without names make a tuple. -/
theorem ofElements?_unnamed (items : List ColumnType) :
    ofElements? (items.map fun type => (none, type)) = some (.tuple items) := by
  simp [ofElements?, Function.comp_def]

theorem allNamed_named (items : List (String × ColumnType)) :
    allNamed (items.map fun item => (some item.1, item.2)) = some items := by
  induction items with
  | nil => rfl
  | cons item rest inductionHypothesis => simp [allNamed, inductionHypothesis]

/-- Elements that all have names make a named tuple. -/
theorem ofElements?_named {items : List (String × ColumnType)} (nonempty : items ≠ []) :
    ofElements? (items.map fun item => (some item.1, item.2)) = some (.namedTuple items) := by
  obtain ⟨item, rest, rfl⟩ := List.exists_cons_of_ne_nil nonempty
  rw [ofElements?, allNamed_named]
  simp

theorem ListText.ne_nil {α : Type} {Item : List Char → α → Prop} {text : List Char} {as : List α}
    (list : ListText Item text as) : as ≠ [] := by
  cases list with
  | one item => simp
  | more item spacingBefore spacingAfter items => simp

/-- A tuple is read if its elements make one. -/
theorem tupleBody_reads {inner : Reader ColumnType} {s rest : List Char}
    {elements : List Element} {type : ColumnType}
    (parsed : inParens (separated (element inner)) s = .parsed elements rest)
    (made : ofElements? elements = some type) : tupleBody inner s = .parsed type rest := by
  rw [tupleBody, parsed]
  simp [made]

/-- Type names are read at every depth above their length.  The types inside
stand in shorter texts, so that one level less suffices for them. -/
theorem TypeText.accepts (depth : Nat) {text : List Char} {type : ColumnType}
    (typed : TypeText text type) (deep : text.length < depth) :
    Accepts (reader depth) Ends text type := by
  induction depth generalizing text type with
  | zero => exact absurd deep (Nat.not_lt_zero _)
  | succ depth inductionHypothesis =>
      have inside {s : List Char} {inner : ColumnType} (shorter : s.length < text.length)
          (typed : TypeText s inner) : Accepts (reader depth) Ends s inner :=
        inductionHypothesis typed (by omega)
      have closed {s : List Char} {inner : ColumnType} (shorter : s.length < text.length)
          (typed : TypeText s inner) : Accepts (reader depth) Closes s inner :=
        (inside shorter typed).mono fun _ closes => closes.continues.ends
      cases typed with
      | scalar text => exact text.accepts depth
      | array text | nullable text | lowCardinality text =>
          refine applied_accepts depth text rfl rfl (fun s => closed) ?_
          intro s rest parsed
          simp [bodyReader, parsed]
      | map text =>
          refine applied_accepts depth text rfl rfl (fun s shorter pair => PairText.accepts Ends pair
            (by decide) (fun _ _ => ends_of_comma) (fun t shortest => inside (by omega))
            (fun t shortest => closed (by omega))) ?_
          intro s rest parsed
          simp [bodyReader, spacedComma, parsed]
      | @tuple _ items text =>
          refine applied_accepts depth text rfl rfl (fun s shorter list => list.accepts
            fun t item shortest typed =>
              unnamed_accepts depth typed.startsWithWord (inside (by omega) typed)) ?_
          intro s rest parsed
          exact tupleBody_reads parsed (ofElements?_unnamed items)
      | @namedTuple _ items text =>
          have nonempty : items ≠ [] := by
            cases text with
            | applied spacingBefore spacingAfter list => exact list.ne_nil
          refine applied_accepts depth text rfl rfl (fun s shorter list => list.accepts
            fun t item shortest named =>
              named_accepts depth named fun _ _ => inside (by omega)) ?_
          intro s rest parsed
          exact tupleBody_reads parsed (ofElements?_named nonempty)

/-! ### Whole names -/

/-- What is left behind a type in a trimmed text is not blank, unless it is
nothing. -/
theorem eq_nil_of_trim_eq_append {s text rest : List Char} (split : trim s = text ++ rest)
    (blank : trim rest = []) : rest = [] := by
  by_contra nonempty
  have last : rest.getLast nonempty ∈ (trim s).getLast? := by
    rw [split, List.getLast?_append_of_ne_nil _ nonempty]
    exact List.getLast_mem_getLast? nonempty
  have noBlank := isBlank_getLast_trim _ last
  rw [trim_eq_nil_iff.mp blank _ (List.getLast_mem nonempty)] at noBlank
  cases noBlank

/-- A trimmed text has no spacing in front. -/
theorem eq_nil_of_trim_eq_spacing {s spacing rest : List Char}
    (split : trim s = spacing ++ rest) (isSpaced : Spacing spacing) : spacing = [] := by
  cases spacing with
  | nil => rfl
  | cons c spacing =>
      have noBlank := isBlank_head_trim (s := s) c (by simp [split])
      rw [isBlank_of_isSpacing (isSpaced c (by simp))] at noBlank
      cases noBlank

/-- A name that is read is derivable, and its type is valid. -/
theorem typeText_of_parse {name : String} {type : ColumnType} (parsed : parse name = .ok type) :
    TypeText (trim name.toList) type ∧ validate type = .ok () := by
  rw [parse] at parsed
  split at parsed
  · rename_i type' rest readAll
    split at parsed
    · rename_i blank
      split at parsed
      · rename_i valid
        cases parsed
        refine ⟨?_, valid⟩
        obtain ⟨spacing, text, isSpaced, typed, whole⟩ := reader_sound _ readAll
        obtain rfl := eq_nil_of_trim_eq_spacing whole isSpaced
        rw [List.nil_append] at whole
        obtain rfl := eq_nil_of_trim_eq_append whole (by simpa using blank)
        rw [whole, List.append_nil]
        exact typed
      · cases parsed
    · cases parsed
  · cases parsed
  · cases parsed

/-- A derivable name of a valid type is read. -/
theorem parse_of_typeText {name : String} {type : ColumnType}
    (typed : TypeText (trim name.toList) type) (valid : validate type = .ok ()) :
    parse name = .ok type := by
  have read := (typed.accepts ((trim name.toList).length + 1) (Nat.lt_succ_self _)).reads []
    (by simp [Ends])
  rw [List.append_nil] at read
  have nothing : (trim []).isEmpty = true := rfl
  rw [parse, read]
  simp [valid, nothing]

/-- Reading succeeds on exactly the texts that the grammar derives once the
blanks around them are gone, with the type that it derives, provided that the
type is valid. -/
theorem parse_eq_ok_iff_typeText (name : String) (type : ColumnType) :
    parse name = .ok type ↔ TypeText (trim name.toList) type ∧ validate type = .ok () := by
  constructor
  · exact typeText_of_parse
  · rintro ⟨typed, valid⟩
    exact parse_of_typeText typed valid

end ColumnarSql.TypeGrammar
