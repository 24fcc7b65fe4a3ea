/-
Module: ColumnarSql.Proofs.ErrorPositions
Purpose: The position of an error lies between two characters of the text that
  could not be read.
Main exports:
  Reading.remainder, Reader.StopsInside, ColumnType.stopsInside_reader, Remains,
  ColumnType.remains_of_parse, EngineText.FaultRest, EngineText.remains_of_parse,
  parse_error_positions
-/
import ColumnarSql.ColumnType.Reader
import ColumnarSql.Proofs.BytePositions
import ColumnarSql.Proofs.EngineAssembly

namespace ColumnarSql

namespace Text

/-!
A reader reports a place as the part of the text that remains there.  Such a
part gives a position only if it is an end of the text.  So every reader has to
stop inside its text: where it succeeds, where it rejects the text and where it
aborts.
-/

/-- What a reading leaves of the text, however it ends. -/
def Reading.remainder {α : Type} : Reading α → List Char
  | .parsed _ rest => rest
  | .rejected place => place
  | .aborted place => place

/-- What follows may stop anywhere in the whole text, also in front of what was
read already. -/
theorem Reading.remainder_andThen {α β : Type} {reading : Reading α} {next : α → Reader β}
    {s : List Char} (inside : reading.remainder <:+ s)
    (next_inside : ∀ a rest, rest <:+ s → (next a rest).remainder <:+ s) :
    (reading.andThen next).remainder <:+ s := by
  cases reading with
  | parsed a rest => exact next_inside a rest inside
  | rejected place => exact inside
  | aborted place => exact inside

/-- Changing the value of a reading does not move its end. -/
theorem Reading.remainder_map {α β : Type} (f : α → β) (reading : Reading α) :
    (reading.map f).remainder = reading.remainder := by
  cases reading <;> rfl

namespace Reader

/-- What a reader leaves is always an end of its text. -/
def StopsInside {α : Type} (reader : Reader α) : Prop :=
  ∀ s, (reader s).remainder <:+ s

/-- What a known reading leaves is an end of the text that was read. -/
theorem StopsInside.suffix {α : Type} {reader : Reader α} (inside : StopsInside reader)
    {s : List Char} {reading : Reading α} (read : reader s = reading) :
    reading.remainder <:+ s := by
  rw [← read]
  exact inside s

/-! ### Single characters, words, numbers and literals -/

/-- Skipping spacing leaves an end of the text. -/
theorem skipSpacing_suffix (s : List Char) : skipSpacing s <:+ s :=
  List.dropWhile_suffix isSpacing

theorem stopsInside_mark (c : Char) : StopsInside (mark c) := by
  intro s
  cases s with
  | nil => exact List.suffix_rfl
  | cons head rest =>
      rw [mark]
      split
      · exact List.suffix_cons head rest
      · exact List.suffix_rfl

/-- A spaced mark stops inside the text, wherever the spacing stands. -/
theorem stopsInside_spacedMark (c : Char) : StopsInside (spacedMark c) := by
  intro s
  apply Reading.remainder_andThen
  · exact (stopsInside_mark c _).trans (skipSpacing_suffix s)
  · intro _ rest within
    exact (skipSpacing_suffix rest).trans within

theorem stopsInside_word : StopsInside word := by
  intro s
  simp only [word]
  split
  · exact List.suffix_rfl
  · exact List.dropWhile_suffix isWordChar

/-- A number stops behind its digits, or where it starts if it is refused. -/
theorem stopsInside_natural32 : StopsInside natural32 := by
  intro s
  simp only [natural32]
  split
  · exact List.suffix_rfl
  · exact List.dropWhile_suffix Char.isDigit

/-- An integer stops behind its digits, behind its sign, or where it starts. -/
theorem stopsInside_integer16 : StopsInside integer16 := by
  intro s
  have unsigned_suffix : (if (s.head? == some '-') = true then s.drop 1 else s) <:+ s := by
    split
    · exact List.drop_suffix 1 s
    · exact List.suffix_rfl
  have digits_inside : ∀ (unsigned : List Char) (value : Int), unsigned <:+ s →
      (if (unsigned.takeWhile Char.isDigit).isEmpty then Reading.rejected unsigned
        else if value < -32768 || 32767 < value then .rejected s
        else .parsed (Int16.ofInt value) (unsigned.dropWhile Char.isDigit)).remainder <:+ s := by
    intro unsigned value within
    split
    · exact within
    · split
      · exact List.suffix_rfl
      · exact (List.dropWhile_suffix Char.isDigit).trans within
  exact digits_inside _ _ unsigned_suffix

/-- What the reading of a literal leaves. -/
def quotedRemainder : QuotedReading → List Char
  | .closed _ rest => rest
  | .stopped place => place

/-- A character more in front of a literal does not move its end. -/
theorem quotedRemainder_cons (c : Char) (reading : QuotedReading) :
    quotedRemainder (reading.cons c) = quotedRemainder reading := by
  cases reading <;> rfl

/-- The body of a literal is left behind its quote, or where it breaks off. -/
theorem readQuotedBody_suffix (s : List Char) : quotedRemainder (readQuotedBody s) <:+ s := by
  induction s using readQuotedBody.induct with
  | case1 => exact List.suffix_rfl
  | case2 rest => exact List.suffix_cons _ rest
  | case3 => exact List.suffix_rfl
  | case4 c rest inductionHypothesis =>
      rw [readQuotedBody, quotedRemainder_cons]
      exact inductionHypothesis.trans ((List.suffix_cons c rest).trans (List.suffix_cons _ _))
  | case5 c rest noQuote noEnd noBackslash inductionHypothesis =>
      rw [readQuotedBody, quotedRemainder_cons]
      · exact inductionHypothesis.trans (List.suffix_cons c rest)
      · exact noQuote
      · exact noEnd
      · exact noBackslash

theorem stopsInside_quotation : StopsInside quotation := by
  intro s
  have inside : quotedRemainder (readQuoted s) <:+ s := by
    unfold readQuoted
    split
    · exact (readQuotedBody_suffix _).trans (List.suffix_cons _ _)
    · exact List.suffix_rfl
  rw [quotation]
  cases reading : readQuoted s with
  | closed text rest =>
      rw [reading] at inside
      exact inside
  | stopped place =>
      rw [reading] at inside
      exact inside

/-! ### Readers made of readers -/

section Combinators

variable {α β : Type} {inner : Reader α}

/-- Parentheses around a reader keep it inside its text. -/
theorem stopsInside_inParens (inside : StopsInside inner) : StopsInside (inParens inner) := by
  intro s
  apply Reading.remainder_andThen (stopsInside_mark '(' s)
  intro _ body body_within
  apply Reading.remainder_andThen
  · exact (inside _).trans ((skipSpacing_suffix body).trans body_within)
  · intro value rest within
    rw [Reading.remainder_map]
    exact (stopsInside_mark ')' _).trans ((skipSpacing_suffix rest).trans within)

/-- A reader that backs off leaves all of its text. -/
theorem stopsInside_optional (inside : StopsInside inner) : StopsInside (optional inner) := by
  intro s
  rw [optional]
  cases read : inner s with
  | parsed value rest => exact inside.suffix read
  | rejected place => exact List.suffix_rfl
  | aborted place => exact inside.suffix read

/-- A pair stops inside its text if its three readers do. -/
theorem stopsInside_separatedPair {separator : Reader Unit} {second : Reader β}
    (first_inside : StopsInside inner) (separator_inside : StopsInside separator)
    (second_inside : StopsInside second) :
    StopsInside (separatedPair inner separator second) := by
  intro s
  apply Reading.remainder_andThen (first_inside s)
  intro a afterFirst afterFirst_within
  apply Reading.remainder_andThen ((separator_inside afterFirst).trans afterFirst_within)
  intro _ rest within
  rw [Reading.remainder_map]
  exact (second_inside rest).trans within

/-- A list ends behind its last item, or where an item aborts the reading. -/
theorem stopsInside_moreItems (inside : StopsInside inner) (count : Nat) :
    StopsInside (moreItems inner count) := by
  induction count with
  | zero =>
      intro s
      exact List.suffix_rfl
  | succ count inductionHypothesis =>
      intro s
      have comma_inside : StopsInside spacedComma := stopsInside_spacedMark ','
      rw [moreItems]
      cases commaRead : spacedComma s with
      | parsed _ afterComma =>
          have afterComma_within : afterComma <:+ s := comma_inside.suffix commaRead
          cases itemRead : inner afterComma with
          | parsed value rest =>
              have rest_within : rest <:+ afterComma := inside.suffix itemRead
              simp only [itemRead, Reading.remainder_map]
              exact (inductionHypothesis rest).trans (rest_within.trans afterComma_within)
          | rejected place =>
              simp only [itemRead]
              exact List.suffix_rfl
          | aborted place =>
              simp only [itemRead]
              exact (inside.suffix itemRead).trans afterComma_within
      | rejected place => exact List.suffix_rfl
      | aborted place => exact comma_inside.suffix commaRead

/-- A list stops inside its text if its items do. -/
theorem stopsInside_separated (inside : StopsInside inner) : StopsInside (separated inner) := by
  intro s
  apply Reading.remainder_andThen (inside s)
  intro value rest within
  rw [Reading.remainder_map]
  exact (stopsInside_moreItems inside rest.length rest).trans within

/-- Changing the value keeps a reader inside its text. -/
theorem stopsInside_map (f : α → β) (inside : StopsInside inner) :
    StopsInside fun s => (inner s).map f := by
  intro s
  rw [Reading.remainder_map]
  exact inside s

end Combinators

end Reader

end Text

open Text

namespace ColumnType

open Text.Reader

/-! ### Type names -/

section Body

variable {inner : Reader ColumnType}

theorem stopsInside_namedElement (inside : StopsInside inner) :
    StopsInside (namedElement inner) := by
  intro s
  apply Reading.remainder_andThen (stopsInside_word s)
  intro name rest within
  split
  · exact within
  · split
    · rw [Reading.remainder_map]
      exact (inside _).trans ((skipSpacing_suffix _).trans within)
    · exact within

/-- An element of a tuple stops inside its text, with or without a name. -/
theorem stopsInside_element (inside : StopsInside inner) : StopsInside (element inner) := by
  intro s
  have named_inside := stopsInside_namedElement inside
  rw [element]
  cases read : namedElement inner s with
  | parsed value rest => exact named_inside.suffix read
  | rejected place => exact stopsInside_map _ inside s
  | aborted place => exact named_inside.suffix read

/-- A mixture of elements is reported in front of the whole tuple. -/
theorem stopsInside_tupleBody (inside : StopsInside inner) : StopsInside (tupleBody inner) := by
  intro s
  apply Reading.remainder_andThen
  · exact stopsInside_inParens (stopsInside_separated (stopsInside_element inside)) s
  · intro elements rest within
    split
    · exact within
    · exact List.suffix_rfl

theorem stopsInside_member : StopsInside member :=
  stopsInside_separatedPair stopsInside_quotation (stopsInside_spacedMark '=')
    stopsInside_integer16

theorem stopsInside_precisionAndZone : StopsInside precisionAndZone := by
  intro s
  apply Reading.remainder_andThen (stopsInside_natural32 s)
  intro precision rest within
  have zone_inside : StopsInside fun s =>
      (spacedComma s).andThen fun _ rest => quotation rest := by
    intro s
    apply Reading.remainder_andThen (stopsInside_spacedMark ',' s)
    intro _ rest within
    exact (stopsInside_quotation rest).trans within
  rw [Reading.remainder_map]
  exact (stopsInside_optional zone_inside rest).trans within

/-- Whatever follows the first word of a type name is read inside the text. -/
theorem stopsInside_bodyReader (inside : StopsInside inner) (word : TypeWord) :
    StopsInside (bodyReader inner word) := by
  have comma : StopsInside spacedComma := stopsInside_spacedMark ','
  cases word with
  | plain type =>
      intro s
      exact List.suffix_rfl
  | string =>
      exact stopsInside_map _ (stopsInside_optional (stopsInside_inParens stopsInside_natural32))
  | fixedString => exact stopsInside_map _ (stopsInside_inParens stopsInside_natural32)
  | dateTime =>
      exact stopsInside_map _ (stopsInside_optional (stopsInside_inParens stopsInside_quotation))
  | dateTime64 => exact stopsInside_map _ (stopsInside_inParens stopsInside_precisionAndZone)
  | decimal =>
      exact stopsInside_map _ (stopsInside_inParens
        (stopsInside_separatedPair stopsInside_natural32 comma stopsInside_natural32))
  | decimalOf precision => exact stopsInside_map _ (stopsInside_inParens stopsInside_natural32)
  | enumeration width =>
      exact stopsInside_map _ (stopsInside_inParens (stopsInside_separated stopsInside_member))
  | array => exact stopsInside_map _ (stopsInside_inParens inside)
  | nullable => exact stopsInside_map _ (stopsInside_inParens inside)
  | lowCardinality => exact stopsInside_map _ (stopsInside_inParens inside)
  | tuple => exact stopsInside_tupleBody inside
  | map =>
      exact stopsInside_map _ (stopsInside_inParens (stopsInside_separatedPair inside comma inside))

end Body

/-- At every depth, a type name is read, rejected or given up inside its text. -/
theorem stopsInside_reader (depth : Nat) : StopsInside (reader depth) := by
  induction depth with
  | zero =>
      intro s
      exact List.suffix_rfl
  | succ depth inductionHypothesis =>
      intro s
      have start_within := skipSpacing_suffix s
      apply Reading.remainder_andThen ((stopsInside_word _).trans start_within)
      intro name rest within
      split
      · exact (stopsInside_bodyReader inductionHypothesis _ rest).trans within
      · exact start_within

end ColumnType

/-! ### Positions -/

/-- At a byte position of a text, `rest` is what remains of it. -/
def Remains (source : List Char) (position : Nat) (rest : List Char) : Prop :=
  ∃ before, source = before ++ rest ∧ position = byteLength before

/-- A position at which something remains is a boundary between characters. -/
theorem Remains.isValid {source rest : List Char} {position : Nat}
    (remains : Remains source position rest) :
    (String.Pos.Raw.mk position).IsValid (String.ofList source) := by
  obtain ⟨before, rfl, rfl⟩ := remains
  exact isValid_byteLength before rest

/-- A position at which something remains is not beyond the end. -/
theorem Remains.le_utf8ByteSize {source rest : List Char} {position : Nat}
    (remains : Remains source position rest) :
    position ≤ (String.ofList source).utf8ByteSize := by
  obtain ⟨before, rfl, rfl⟩ := remains
  rw [utf8ByteSize_eq_byteLength]
  exact byteLength_le

/-- The difference of two byte lengths is a position if the shorter text is an
end of the longer one. -/
theorem remains_sub {source rest : List Char} (inside : rest <:+ source) :
    Remains source (byteLength source - byteLength rest) rest := by
  obtain ⟨before, rfl⟩ := inside
  refine ⟨before, rfl, ?_⟩
  rw [byteLength_append, Nat.add_sub_cancel]

theorem byteLength_le_of_suffix {source rest : List Char} (inside : rest <:+ source) :
    byteLength rest ≤ byteLength source := by
  obtain ⟨before, rfl⟩ := inside
  rw [byteLength_append]
  exact Nat.le_add_left _ _

/-- A fault of a type name is reported where its reader stops. -/
theorem ColumnType.remains_of_parse {name : String} {position : Nat} {fault : ParseFault}
    (failed : ColumnType.parse name = .error (.parse position fault)) :
    Remains (trim name.toList) position
      (ColumnType.reader ((trim name.toList).length + 1) (trim name.toList)).remainder := by
  have inside := ColumnType.stopsInside_reader ((trim name.toList).length + 1)
  simp only [ColumnType.parse] at failed
  split at failed
  · next read =>
    rw [read]
    split at failed
    · split at failed <;> cases failed
    · cases failed
      exact remains_sub (inside.suffix read)
  · next read =>
    rw [read]
    cases failed
    exact remains_sub (inside.suffix read)
  · next read =>
    rw [read]
    cases failed
    exact remains_sub (inside.suffix read)

namespace EngineText

/-- What remains of the text of an engine where a fault is reported. -/
inductive FaultRest (source : List Char) : List Char → Prop where
  /-- Without a name, the fault is one of the whole text. -/
  | noName (unnamed : ∀ name body,
      Reader.word (Reader.skipSpacing source) ≠ .parsed name body) : FaultRest source source
  /-- Malformed arguments are reported behind the name. -/
  | arguments {name body : List Char}
      (named : Reader.word (Reader.skipSpacing source) = .parsed name body) :
      FaultRest source body
  /-- A repeated clause is reported behind its keyword. -/
  | clause {name body : List Char} {hit : ClauseHit}
      (named : Reader.word (Reader.skipSpacing source) = .parsed name body)
      (found : hit ∈ locateClauses body) : FaultRest source (body.drop hit.stop)

/-- Malformed arguments are reported where they start. -/
theorem readArgs_error {offset position : Nat} {head : List Char} {fault : ParseFault}
    (failed : readArgs offset head = .error (.parse position fault)) : position = offset := by
  rw [readArgs] at failed
  split at failed
  · cases failed
  · split at failed
    · cases failed
    · cases failed
      rfl

/-- A repeated clause is reported behind one of the keywords that were found. -/
theorem addClauses_error {source body : List Char} {offset position : Nat} {fault : ParseFault}
    {text : EngineText} {hits : List ClauseHit}
    (failed : addClauses source body offset text hits = .error (.parse position fault)) :
    ∃ hit ∈ hits, position = offset + byteLength (body.take hit.stop) := by
  induction hits generalizing text with
  | nil => cases failed
  | cons hit rest inductionHypothesis =>
      rw [addClauses_hit] at failed
      split at failed
      · cases failed
        exact ⟨hit, List.mem_cons_self, rfl⟩
      · obtain ⟨later, found, reported⟩ := inductionHypothesis failed
        exact ⟨later, List.mem_cons_of_mem hit found, reported⟩

/-- What follows the name of an engine is an end of its text. -/
theorem body_suffix {source name body : List Char}
    (named : Reader.word (Reader.skipSpacing source) = .parsed name body) : body <:+ source := by
  have within : body <:+ Reader.skipSpacing source := Reader.stopsInside_word.suffix named
  exact within.trans (Reader.skipSpacing_suffix source)

/-- A fault in the text of an engine is reported at the start of what remains
there. -/
theorem remains_of_parse {engineFull : String} {position : Nat} {fault : ParseFault}
    (failed : parse engineFull = .error (.parse position fault)) :
    ∃ rest, FaultRest (trim engineFull.toList) rest ∧
      Remains (trim engineFull.toList) position rest := by
  simp only [parse] at failed
  split at failed
  · next name body named =>
    obtain ⟨before, spelled, offset⟩ := remains_sub (body_suffix named)
    rw [offset] at failed
    split at failed
    · next argsFailed =>
      cases failed
      exact ⟨body, .arguments named, before, spelled, readArgs_error argsFailed⟩
    · obtain ⟨hit, found, rfl⟩ := addClauses_error failed
      refine ⟨body.drop hit.stop, .clause named found, before ++ body.take hit.stop, ?_, ?_⟩
      · rw [List.append_assoc, List.take_append_drop, spelled]
      · rw [byteLength_append]
  · next unnamed =>
    cases failed
    exact ⟨_, .noName unnamed, [], rfl, rfl⟩

end EngineText

/-- Wherever the name of a type or the text of an engine is faulty, the position
reported lies inside the trimmed text and between two of its characters: where
the reader of the type stops, or in front of a part that `FaultRest` names.  The
lengths that are subtracted to get there never exceed that of the text. -/
theorem parse_error_positions (text : String) :
    (∀ position fault, ColumnType.parse text = .error (.parse position fault) →
      Remains (trim text.toList) position
          (ColumnType.reader ((trim text.toList).length + 1) (trim text.toList)).remainder ∧
        position ≤ (trimmed text).utf8ByteSize ∧
        (String.Pos.Raw.mk position).IsValid (trimmed text)) ∧
    (∀ position fault, EngineText.parse text = .error (.parse position fault) →
      (∃ rest, EngineText.FaultRest (trim text.toList) rest ∧
          Remains (trim text.toList) position rest) ∧
        position ≤ (trimmed text).utf8ByteSize ∧
        (String.Pos.Raw.mk position).IsValid (trimmed text)) ∧
    byteLength (ColumnType.reader ((trim text.toList).length + 1) (trim text.toList)).remainder ≤
      byteLength (trim text.toList) ∧
    (∀ name body, Reader.word (Reader.skipSpacing (trim text.toList)) = .parsed name body →
      byteLength body ≤ byteLength (trim text.toList)) := by
  refine ⟨?_, ?_, ?_, ?_⟩
  · intro position fault failed
    have remains := ColumnType.remains_of_parse failed
    exact ⟨remains, remains.le_utf8ByteSize, remains.isValid⟩
  · intro position fault failed
    obtain ⟨rest, reported, remains⟩ := EngineText.remains_of_parse failed
    exact ⟨⟨rest, reported, remains⟩, remains.le_utf8ByteSize, remains.isValid⟩
  · exact byteLength_le_of_suffix (ColumnType.stopsInside_reader _ _)
  · intro name body named
    exact byteLength_le_of_suffix (EngineText.body_suffix named)

/-- A faulty number behind a member `'ä'`, and a clause repeated behind `'ä'`:
both positions count the two bytes of the letter. -/
theorem parse_error_positions_umlaut :
    (ColumnType.parse " Enum8('ä' = x)" =
        .error (.parse 13 (.malformedType "Enum8('ä' = x)")) ∧
      (String.Pos.Raw.mk 13).IsValid (trimmed " Enum8('ä' = x)")) ∧
    (EngineText.parse " X('ä') TTL a TTL b" =
        .error (.parse 17 (.clauseRepeated "X('ä') TTL a TTL b")) ∧
      (String.Pos.Raw.mk 17).IsValid (trimmed " X('ä') TTL a TTL b")) := by
  have type_failed : ColumnType.parse " Enum8('ä' = x)" =
      .error (.parse 13 (.malformedType "Enum8('ä' = x)")) := by rfl
  have engine_failed : EngineText.parse " X('ä') TTL a TTL b" =
      .error (.parse 17 (.clauseRepeated "X('ä') TTL a TTL b")) := by rfl
  exact ⟨⟨type_failed, ((parse_error_positions _).1 _ _ type_failed).2.2⟩,
    ⟨engine_failed, ((parse_error_positions _).2.1 _ _ engine_failed).2.2⟩⟩

end ColumnarSql
