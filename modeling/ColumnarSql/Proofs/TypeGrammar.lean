/-
Module: ColumnarSql.Proofs.TypeGrammar
Purpose: The grammar of type names, as a relation between texts and the types
  they name.
Main exports:
  NumberText, IntegerText, QuotedText, PairText, ListText, NamedText,
  ScalarText, TypeText
-/
import ColumnarSql.ColumnType.Printer
import ColumnarSql.Text.Number

namespace ColumnarSql.TypeGrammar

open Text

/-!
The grammar says which texts name which types.  It knows nothing of reading:
there is no order of choice, no longest match and no way back.

Spacing is free inside parentheses, that is, after the opening and before the
closing one, and around commas and equality signs.  Since every type inside
another one stands behind a parenthesis, a comma or the name of an element,
this covers the spacing before a type as well.  There is no spacing between
the first word of a type and its parenthesis.
-/

/-- Any number of spaces, tabs, carriage returns and line feeds. -/
def Spacing (s : List Char) : Prop :=
  ∀ c ∈ s, isSpacing c = true

/-- A nonempty digit string whose value has 32 bits. -/
def NumberText (s : List Char) (n : UInt32) : Prop :=
  isDigits s = true ∧ digitsValue s = n.toNat

/-- A nonempty digit string, possibly behind a minus sign, whose value is a
signed number of 16 bits. -/
inductive IntegerText : List Char → Int16 → Prop
  | unsigned {s : List Char} {i : Int16} (digits : isDigits s = true)
      (value : (digitsValue s : Int) = i.toInt) : IntegerText s i
  | negative {s : List Char} {i : Int16} (digits : isDigits s = true)
      (value : -(digitsValue s : Int) = i.toInt) : IntegerText ('-' :: s) i

/-- What a character stands for behind a backslash. -/
inductive EscapeText : Char → Char → Prop
  | lineFeed : EscapeText 'n' '\n'
  | tab : EscapeText 't' '\t'
  | carriageReturn : EscapeText 'r' '\r'
  | null : EscapeText '0' '\x00'
  | itself {c : Char} (other : c ∉ ['n', 't', 'r', '0']) : EscapeText c c

/-- What the text between two quotes stands for. -/
inductive QuotedBody : List Char → List Char → Prop
  | nil : QuotedBody [] []
  | plain {c : Char} {s text : List Char} (noQuote : c ≠ '\'') (noBackslash : c ≠ '\\')
      (rest : QuotedBody s text) : QuotedBody (c :: s) (c :: text)
  | escaped {c d : Char} {s text : List Char} (escape : EscapeText c d)
      (rest : QuotedBody s text) : QuotedBody ('\\' :: c :: s) (d :: text)

/-- A text in single quotes. -/
inductive QuotedText : List Char → String → Prop
  | quoted {body text : List Char} (inner : QuotedBody body text) :
      QuotedText ('\'' :: (body ++ ['\''])) (String.ofList text)

/-- Two things with a mark between them. -/
inductive PairText {α β : Type} (First : List Char → α → Prop) (mark : Char)
    (Second : List Char → β → Prop) : List Char → α × β → Prop
  | pair {s before after t : List Char} {a : α} {b : β} (first : First s a)
      (spacingBefore : Spacing before) (spacingAfter : Spacing after) (second : Second t b) :
      PairText First mark Second (s ++ (before ++ mark :: (after ++ t))) (a, b)

/-- One thing or more, with commas between them. -/
inductive ListText {α : Type} (Item : List Char → α → Prop) : List Char → List α → Prop
  | one {s : List Char} {a : α} (item : Item s a) : ListText Item s [a]
  | more {s before after rest : List Char} {a : α} {as : List α} (item : Item s a)
      (spacingBefore : Spacing before) (spacingAfter : Spacing after)
      (items : ListText Item rest as) :
      ListText Item (s ++ (before ++ ',' :: (after ++ rest))) (a :: as)

/-- A word with something in parentheses behind it. -/
inductive AppliedText {α : Type} (word : String) (Inner : List Char → α → Prop) :
    List Char → α → Prop
  | applied {before s after : List Char} {a : α} (spacingBefore : Spacing before)
      (spacingAfter : Spacing after) (inner : Inner s a) :
      AppliedText word Inner (word.toList ++ '(' :: (before ++ (s ++ (after ++ [')'])))) a

/-- A member of an enumeration: a quoted name, an equality sign and a
number. -/
abbrev MemberText : List Char → String × Int16 → Prop :=
  PairText QuotedText '=' IntegerText

/-- An element of a tuple with its name in front, and spacing between the
two. -/
inductive NamedText (Inner : List Char → ColumnType → Prop) :
    List Char → String × ColumnType → Prop
  | named {name : String} {spacing s : List Char} {type : ColumnType}
      (isName : isWord name.toList = true) (isSpaced : Spacing spacing) (nonempty : spacing ≠ [])
      (inner : Inner s type) : NamedText Inner (name.toList ++ (spacing ++ s)) (name, type)

/-- The names of types that are not built from other types. -/
inductive ScalarText : List Char → Scalar → Prop
  | integer (type : IntegerType) : ScalarText type.name.toList (.integer type)
  | float (width : FloatWidth) : ScalarText width.name.toList (.float width)
  | bool : ScalarText "Bool".toList .bool
  | boolean : ScalarText "Boolean".toList .bool
  | uuid : ScalarText "UUID".toList .uuid
  | date : ScalarText "Date".toList .date
  | date32 : ScalarText "Date32".toList .date32
  | ipv4 : ScalarText "IPv4".toList .ipv4
  | ipv6 : ScalarText "IPv6".toList .ipv6
  | string : ScalarText "String".toList (.string none)
  | boundedString {s : List Char} {n : UInt32} (text : AppliedText "String" NumberText s n) :
      ScalarText s (.string (some n))
  | fixedString {s : List Char} {n : UInt32} (text : AppliedText "FixedString" NumberText s n) :
      ScalarText s (.fixedString n)
  | dateTime : ScalarText "DateTime".toList (.dateTime none)
  | zonedDateTime {s : List Char} {zone : String} (text : AppliedText "DateTime" QuotedText s zone) :
      ScalarText s (.dateTime (some zone))
  | dateTime64 {s : List Char} {p : UInt32} (text : AppliedText "DateTime64" NumberText s p) :
      ScalarText s (.dateTime64 p none)
  | zonedDateTime64 {s : List Char} {p : UInt32} {zone : String}
      (text : AppliedText "DateTime64" (PairText NumberText ',' QuotedText) s (p, zone)) :
      ScalarText s (.dateTime64 p (some zone))
  | decimal {s : List Char} {p q : UInt32}
      (text : AppliedText "Decimal" (PairText NumberText ',' NumberText) s (p, q)) :
      ScalarText s (.decimal p q)
  | decimal32 {s : List Char} {q : UInt32} (text : AppliedText "Decimal32" NumberText s q) :
      ScalarText s (.decimal 9 q)
  | decimal64 {s : List Char} {q : UInt32} (text : AppliedText "Decimal64" NumberText s q) :
      ScalarText s (.decimal 18 q)
  | decimal128 {s : List Char} {q : UInt32} (text : AppliedText "Decimal128" NumberText s q) :
      ScalarText s (.decimal 38 q)
  | enumeration {s : List Char} {width : EnumWidth} {members : List (String × Int16)}
      (text : AppliedText width.name (ListText MemberText) s members) :
      ScalarText s (.enumeration width members)

/-- The names of types.  Of the elements of a tuple either none has a name or
every one has. -/
inductive TypeText : List Char → ColumnType → Prop
  | scalar {s : List Char} {type : Scalar} (text : ScalarText s type) : TypeText s (.scalar type)
  | array {s : List Char} {type : ColumnType} (text : AppliedText "Array" TypeText s type) :
      TypeText s (.array type)
  | nullable {s : List Char} {type : ColumnType} (text : AppliedText "Nullable" TypeText s type) :
      TypeText s (.nullable type)
  | lowCardinality {s : List Char} {type : ColumnType}
      (text : AppliedText "LowCardinality" TypeText s type) : TypeText s (.lowCardinality type)
  | map {s : List Char} {key value : ColumnType}
      (text : AppliedText "Map" (PairText TypeText ',' TypeText) s (key, value)) :
      TypeText s (.map key value)
  | tuple {s : List Char} {items : List ColumnType}
      (text : AppliedText "Tuple" (ListText TypeText) s items) : TypeText s (.tuple items)
  | namedTuple {s : List Char} {items : List (String × ColumnType)}
      (text : AppliedText "Tuple" (ListText (NamedText TypeText)) s items) :
      TypeText s (.namedTuple items)

end ColumnarSql.TypeGrammar
