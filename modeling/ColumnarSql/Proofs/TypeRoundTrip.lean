/-
Module: ColumnarSql.Proofs.TypeRoundTrip
Purpose: The name of a valid type is read back as that type, and only valid
  types are ever read.
Main exports:
  quotation_quotedString, typeText_render, trim_of_startsWithWord,
  parse_render_iff_valid
-/
import ColumnarSql.Proofs.TypeReading

namespace ColumnarSql.TypeGrammar

open Text Reader ColumnType

/-! ### Numbers, quoted texts and lists as they are written -/

/-- The text of a number is a number in the grammar. -/
theorem numberText_toString (n : UInt32) : NumberText (toString n.toNat).toList n := by
  rw [toList_toString_nat]
  exact ⟨isDigits_digitsOf _, digitsValue_digitsOf _⟩

/-- The text of an integer is an integer in the grammar. -/
theorem integerText_toString (i : Int16) : IntegerText (toString i.toInt).toList i := by
  rw [Int.toString_eq_repr, Int.repr_eq_if]
  split
  · rename_i nonnegative
    rw [Nat.toList_repr]
    refine .unsigned (isDigits_digitsOf _) ?_
    rw [← digitsOf, digitsValue_digitsOf]
    exact Int.toNat_of_nonneg nonnegative
  · rename_i negative
    have signed : ("-" ++ (-i.toInt).toNat.repr).toList = '-' :: digitsOf (-i.toInt).toNat := by
      rw [String.toList_append, Nat.toList_repr]
      rfl
    rw [signed]
    refine .negative (isDigits_digitsOf _) ?_
    rw [digitsValue_digitsOf]
    omega

/-- Escapes that are written are escapes of the grammar. -/
theorem escapeText_of_escapeLetter? {c letter : Char} (found : escapeLetter? c = some letter) :
    EscapeText letter c := by
  simp only [escapeLetter?, beq_iff_eq] at found
  split at found
  · subst c
    cases found
    exact .itself (by decide)
  · split at found
    · subst c
      cases found
      exact .itself (by decide)
    · split at found
      · subst c
        cases found
        exact .lineFeed
      · split at found
        · subst c
          cases found
          exact .tab
        · split at found
          · subst c
            cases found
            exact .carriageReturn
          · split at found
            · subst c
              cases found
              exact .null
            · cases found

/-- An escaped string is the body of a literal. -/
theorem quotedBody_escapeString (s : List Char) : QuotedBody (escapeString s) s := by
  induction s with
  | nil => exact .nil
  | cons c rest inductionHypothesis =>
      rw [escapeString]
      split
      · rename_i letter found
        exact .escaped (escapeText_of_escapeLetter? found) inductionHypothesis
      · rename_i plain
        refine .plain ?_ ?_ inductionHypothesis
        · rintro rfl
          cases plain
        · rintro rfl
          cases plain

/-- A quoted string is a literal of the grammar. -/
theorem quotedText_quotedString (s : String) : QuotedText (quotedString s).toList s := by
  rw [quotedString, String.toList_ofList, quoteChars]
  have quoted := QuotedText.quoted (quotedBody_escapeString s.toList)
  rwa [String.ofList_toList] at quoted

/-- A string literal is read back as its string, whatever follows it. -/
theorem quotation_quotedString (s rest : String) :
    quotation (quotedString s ++ rest).toList = .parsed s rest.toList := by
  have literal : Accepts quotation (fun _ => True) (quotedString s).toList s :=
    (quotedText_quotedString s).accepts
  rw [String.toList_append]
  exact literal.reads rest.toList trivial

example : quotation "'it\\'s \\\\ \\n\\t\\r\\0' = 1, 'b' = 2".toList =
    .parsed "it's \\ \n\t\r\x00" " = 1, 'b' = 2".toList := by
  decide

theorem spacing_space : Spacing [' '] := by
  simp [Spacing, isSpacing]

/-- Two texts with a comma and a space between them are a pair. -/
theorem pairText_comma {α β : Type} {First : List Char → α → Prop} {Second : List Char → β → Prop}
    {s t : String} {a : α} {b : β} (first : First s.toList a) (second : Second t.toList b) :
    PairText First ',' Second (s ++ ", " ++ t).toList (a, b) := by
  have pair : PairText First ',' Second _ (a, b) :=
    .pair first Spacing.nil spacing_space second
  simpa using pair

/-- A text before a comma, a space and a list extends the list. -/
theorem listText_cons {α : Type} {Item : List Char → α → Prop} {s t : String} {a : α}
    {as : List α} (item : Item s.toList a) (items : ListText Item t.toList as) :
    ListText Item (s ++ ", " ++ t).toList (a :: as) := by
  have list := ListText.more item Spacing.nil spacing_space items
  simpa using list

/-- A word with a text in parentheses is an applied text. -/
theorem appliedText_parens {α : Type} {word s : String} {Inner : List Char → α → Prop} {a : α}
    (inner : Inner s.toList a) : AppliedText word Inner (word ++ "(" ++ s ++ ")").toList a := by
  have applied : AppliedText word Inner _ a := .applied Spacing.nil Spacing.nil inner
  simpa using applied

theorem appliedText_pair {α β : Type} {word s t : String} {First : List Char → α → Prop}
    {Second : List Char → β → Prop} {a : α} {b : β} (first : First s.toList a)
    (second : Second t.toList b) :
    AppliedText word (PairText First ',' Second) (word ++ "(" ++ s ++ ", " ++ t ++ ")").toList
      (a, b) := by
  have grouped : word ++ "(" ++ s ++ ", " ++ t ++ ")" = word ++ "(" ++ (s ++ ", " ++ t) ++ ")" := by
    simp only [String.append_assoc]
  rw [grouped]
  exact appliedText_parens (pairText_comma first second)

/-- A member of an enumeration is written as the grammar has it. -/
theorem memberText_renderMember (member : String × Int16) :
    MemberText (renderMember member).toList member := by
  have pair : MemberText _ member :=
    .pair (quotedText_quotedString member.1) spacing_space spacing_space
      (integerText_toString member.2)
  simpa [renderMember] using pair

/-- So are the members together. -/
theorem listText_renderMembers :
    ∀ members : List (String × Int16), members ≠ [] →
      ListText MemberText (joinWith ", " (members.map renderMember)).toList members
  | [], nonempty => absurd rfl nonempty
  | [member], _ => .one (memberText_renderMember member)
  | member :: next :: rest, _ =>
      listText_cons (memberText_renderMember member)
        (listText_renderMembers (next :: rest) (by simp))

/-- An element is written as its name, a space and its type. -/
theorem namedText_render {name : String} {type : ColumnType} (isName : isWord name.toList = true)
    (typed : TypeText type.render.toList type) :
    NamedText TypeText (name ++ " " ++ type.render).toList (name, type) := by
  have named := NamedText.named isName spacing_space (by simp) typed
  simpa using named

/-! ### The names of valid types are derivable -/

/-- The name of a valid scalar type is in the grammar. -/
theorem scalarText_render {type : Scalar} (valid : checkScalar type = .ok ()) :
    ScalarText type.render.toList type := by
  cases type with
  | integer type => exact .integer type
  | float width => exact .float width
  | bool => exact .bool
  | uuid => exact .uuid
  | date => exact .date
  | date32 => exact .date32
  | ipv4 => exact .ipv4
  | ipv6 => exact .ipv6
  | string declared =>
      cases declared with
      | none => exact .string
      | some n => exact .boundedString (appliedText_parens (numberText_toString n))
  | fixedString n => exact .fixedString (appliedText_parens (numberText_toString n))
  | dateTime timezone =>
      cases timezone with
      | none => exact .dateTime
      | some zone => exact .zonedDateTime (appliedText_parens (quotedText_quotedString zone))
  | dateTime64 p timezone =>
      cases timezone with
      | none => exact .dateTime64 (appliedText_parens (numberText_toString p))
      | some zone =>
          exact .zonedDateTime64
            (appliedText_pair (numberText_toString p) (quotedText_quotedString zone))
  | decimal p q =>
      exact .decimal (appliedText_pair (numberText_toString p) (numberText_toString q))
  | enumeration width members =>
      have nonempty : members ≠ [] := by
        rintro rfl
        cases valid
      exact .enumeration (appliedText_parens (listText_renderMembers members nonempty))

theorem ok_of_bind_eq_ok {ε : Type} {first second : Except ε Unit}
    (valid : (do first; second) = .ok ()) : first = .ok () ∧ second = .ok () := by
  cases first with
  | error fault => cases valid
  | ok u => exact ⟨rfl, valid⟩

theorem validate_of_nullable {inner : ColumnType}
    (valid : validate (.nullable inner) = .ok ()) : validate inner = .ok () := by
  cases inner with
  | scalar type => exact valid
  | _ => cases valid

/-- A valid named tuple has a word for each name and a valid type for each
element. -/
theorem validateElements_cons {names : List String} {name : String} {item : ColumnType}
    {rest : List (String × ColumnType)}
    (valid : validateElements names ((name, item) :: rest) = .ok ()) :
    isWord name.toList = true ∧ validate item = .ok () ∧
      validateElements (name :: names) rest = .ok () := by
  rw [validateElements] at valid
  split at valid
  · cases valid
  · rename_i isName
    split at valid
    · cases valid
    · exact ⟨by simpa using isName, ok_of_bind_eq_ok valid⟩

mutual

/-- The name of a valid type is a text of the grammar that names this type. -/
theorem typeText_render :
    ∀ type : ColumnType, validate type = .ok () → TypeText type.render.toList type
  | .scalar type, valid => .scalar (scalarText_render valid)
  | .array inner, valid => .array (appliedText_parens (typeText_render inner valid))
  | .nullable inner, valid =>
      .nullable (appliedText_parens (typeText_render inner (validate_of_nullable valid)))
  | .lowCardinality inner, valid =>
      .lowCardinality (appliedText_parens (typeText_render inner valid))
  | .map key value, valid => by
      obtain ⟨validKey, validValue⟩ := ok_of_bind_eq_ok valid
      exact .map
        (appliedText_pair (typeText_render key validKey) (typeText_render value validValue))
  | .tuple items, valid => by
      rw [validate] at valid
      split at valid
      · cases valid
      · rename_i nonempty
        exact .tuple (appliedText_parens
          (listText_renderItems items (by simpa using nonempty) valid))
  | .namedTuple items, valid => by
      rw [validate] at valid
      split at valid
      · cases valid
      · rename_i nonempty
        exact .namedTuple (appliedText_parens
          (listText_renderElements items [] (by simpa using nonempty) valid))

/-- The names of the types in a valid tuple are a list in the grammar. -/
theorem listText_renderItems :
    ∀ items : List ColumnType, items ≠ [] → validateItems items = .ok () →
      ListText TypeText (joinWith ", " (renderItems items)).toList items
  | [], nonempty, _ => absurd rfl nonempty
  | [item], _, valid => .one (typeText_render item (ok_of_bind_eq_ok valid).1)
  | item :: next :: rest, _, valid => by
      obtain ⟨validItem, validRest⟩ := ok_of_bind_eq_ok valid
      exact listText_cons (typeText_render item validItem)
        (listText_renderItems (next :: rest) (by simp) validRest)

/-- So are those of a valid named tuple, with the names of its elements. -/
theorem listText_renderElements :
    ∀ (items : List (String × ColumnType)) (names : List String), items ≠ [] →
      validateElements names items = .ok () →
        ListText (NamedText TypeText) (joinWith ", " (renderElements items)).toList items
  | [], _, nonempty, _ => absurd rfl nonempty
  | [(name, item)], _, _, valid => by
      obtain ⟨isName, validItem, -⟩ := validateElements_cons valid
      exact .one (namedText_render isName (typeText_render item validItem))
  | (name, item) :: next :: rest, names, _, valid => by
      obtain ⟨isName, validItem, validRest⟩ := validateElements_cons valid
      exact listText_cons (namedText_render isName (typeText_render item validItem))
        (listText_renderElements (next :: rest) (name :: names) (by simp) validRest)

end

/-! ### Round trip -/

/-- There are no blanks around a type name. -/
theorem trim_of_startsWithWord {text : List Char} (starts : StartsWithWord text) :
    trim text = text := by
  obtain ⟨name, body, isName, shape, rfl⟩ := starts
  have noBlank : ∀ c ∈ name, isBlank c = false :=
    fun c member => isBlank_of_isWordChar (mem_of_isWord isName c member)
  obtain ⟨first, tail, rfl, -⟩ := solid_of_isWord isName
  apply trim_eq_self
  · intro c head
    simp only [List.cons_append, List.head?_cons, Option.mem_some_iff] at head
    subst head
    exact noBlank first (by simp)
  · intro c last
    rcases shape with rfl | ⟨inner, rfl⟩
    · rw [List.append_nil] at last
      exact noBlank c (List.mem_of_mem_getLast? last)
    · rw [← List.cons_append, ← List.append_assoc, List.getLast?_concat,
        Option.mem_some_iff] at last
      subst last
      decide

/-- The name of a type is read back as the type itself exactly if the type is
valid, and no text at all is read as a type that is not. -/
theorem parse_render_iff_valid (type : ColumnType) :
    (parse type.render = .ok type ↔ validate type = .ok ()) ∧
      ∀ name, parse name = .ok type → validate type = .ok () := by
  have onlyValid : ∀ name, parse name = .ok type → validate type = .ok () :=
    fun _ parsed => (typeText_of_parse parsed).2
  refine ⟨⟨onlyValid _, ?_⟩, onlyValid⟩
  intro valid
  have typed := typeText_render type valid
  apply parse_of_typeText _ valid
  rw [trim_of_startsWithWord typed.startsWithWord]
  exact typed

end ColumnarSql.TypeGrammar
