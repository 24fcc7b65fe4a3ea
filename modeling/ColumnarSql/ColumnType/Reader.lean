/-
Module: ColumnarSql.ColumnType.Reader
Purpose: Reading column types from their names.
Main exports:
  TypeWord, typeWord?, ColumnType.reader, ColumnType.parse
-/
import ColumnarSql.ColumnType.Validity
import ColumnarSql.Text.Reading

namespace ColumnarSql

open Text

/-!
A type name starts with a word.  The word decides what must or may follow in
parentheses; there is no spacing between the word and its parenthesis.  An
element of a tuple may have a name before its type, and then every element of
that tuple must have one.
-/

/-- The meaning of the first word of a type name. -/
inductive TypeWord where
  /-- A scalar type without parameters. -/
  | plain (type : Scalar)
  | string
  | fixedString
  | dateTime
  | dateTime64
  | decimal
  /-- A decimal of fixed precision, which takes only a scale. -/
  | decimalOf (precision : UInt32)
  | enumeration (width : EnumWidth)
  | array
  | nullable
  | lowCardinality
  | tuple
  | map
deriving DecidableEq, Repr, Inhabited

/-- The words that start a type name. -/
def typeWord? (name : List Char) : Option TypeWord :=
  match String.ofList name with
  | "Int8" => some (.plain (.integer .int8))
  | "Int16" => some (.plain (.integer .int16))
  | "Int32" => some (.plain (.integer .int32))
  | "Int64" => some (.plain (.integer .int64))
  | "Int128" => some (.plain (.integer .int128))
  | "Int256" => some (.plain (.integer .int256))
  | "UInt8" => some (.plain (.integer .uint8))
  | "UInt16" => some (.plain (.integer .uint16))
  | "UInt32" => some (.plain (.integer .uint32))
  | "UInt64" => some (.plain (.integer .uint64))
  | "UInt128" => some (.plain (.integer .uint128))
  | "UInt256" => some (.plain (.integer .uint256))
  | "Float32" => some (.plain (.float .float32))
  | "Float64" => some (.plain (.float .float64))
  | "Bool" => some (.plain .bool)
  | "Boolean" => some (.plain .bool)
  | "String" => some .string
  | "UUID" => some (.plain .uuid)
  | "Date" => some (.plain .date)
  | "Date32" => some (.plain .date32)
  | "IPv4" => some (.plain .ipv4)
  | "IPv6" => some (.plain .ipv6)
  | "FixedString" => some .fixedString
  | "DateTime" => some .dateTime
  | "DateTime64" => some .dateTime64
  | "Decimal" => some .decimal
  | "Decimal32" => some (.decimalOf 9)
  | "Decimal64" => some (.decimalOf 18)
  | "Decimal128" => some (.decimalOf 38)
  | "Enum8" => some (.enumeration .enum8)
  | "Enum16" => some (.enumeration .enum16)
  | "Array" => some .array
  | "Nullable" => some .nullable
  | "LowCardinality" => some .lowCardinality
  | "Tuple" => some .tuple
  | "Map" => some .map
  | _ => none

namespace ColumnType

/-- An element of a tuple: its name, if it has one, and its type. -/
abbrev Element := Option String × ColumnType

/-- Read `name Type` with spacing between the two. -/
def namedElement (inner : Reader ColumnType) : Reader Element := fun s =>
  (Reader.word s).andThen fun name rest =>
    match rest with
    | [] => .rejected []
    | c :: _ =>
        if isSpacing c then
          (inner (Reader.skipSpacing rest)).map fun type => (some (String.ofList name), type)
        else
          .rejected rest

/-- Read an element of a tuple, with a name or without. -/
def element (inner : Reader ColumnType) : Reader Element := fun s =>
  match namedElement inner s with
  | .parsed value rest => .parsed value rest
  | .rejected _ => (inner s).map fun type => (none, type)
  | .aborted place => .aborted place

/-- The names of elements that all have one. -/
def allNamed : List Element → Option (List (String × ColumnType))
  | [] => some []
  | (some name, type) :: rest => (allNamed rest).map ((name, type) :: ·)
  | (none, _) :: _ => none

/-- The tuple type of a list of elements, unless only some have names. -/
def ofElements? (elements : List Element) : Option ColumnType :=
  if elements.all fun e => e.1.isNone then some (.tuple (elements.map Prod.snd))
  else (allNamed elements).map .namedTuple

/-- Read the elements of a tuple.  A mixture of named and unnamed elements is
a fault of the tuple as a whole, which no other reading can mend. -/
def tupleBody (inner : Reader ColumnType) : Reader ColumnType := fun s =>
  (Reader.inParens (Reader.separated (element inner)) s).andThen fun elements rest =>
    match ofElements? elements with
    | some type => .parsed type rest
    | none => .aborted s

/-- Read a member of an enumeration. -/
def member : Reader (String × Int16) :=
  Reader.separatedPair Reader.quotation (Reader.spacedMark '=') Reader.integer16

/-- Read a precision and an optional time zone. -/
def precisionAndZone : Reader (UInt32 × Option String) := fun s =>
  (Reader.natural32 s).andThen fun precision rest =>
    (Reader.optional
      (fun s => (Reader.spacedComma s).andThen fun _ rest => Reader.quotation rest) rest).map
        fun zone => (precision, zone)

/-- Read what follows the first word of a type name. -/
def bodyReader (inner : Reader ColumnType) : TypeWord → Reader ColumnType
  | .plain type => fun s => .parsed (.scalar type) s
  | .string => fun s =>
      (Reader.optional (Reader.inParens Reader.natural32) s).map fun n => .scalar (.string n)
  | .fixedString => fun s =>
      (Reader.inParens Reader.natural32 s).map fun n => .scalar (.fixedString n)
  | .dateTime => fun s =>
      (Reader.optional (Reader.inParens Reader.quotation) s).map
        fun zone => .scalar (.dateTime zone)
  | .dateTime64 => fun s =>
      (Reader.inParens precisionAndZone s).map fun (p, zone) => .scalar (.dateTime64 p zone)
  | .decimal => fun s =>
      (Reader.inParens
        (Reader.separatedPair Reader.natural32 Reader.spacedComma Reader.natural32) s).map
          fun (precision, scale) => .scalar (.decimal precision scale)
  | .decimalOf precision => fun s =>
      (Reader.inParens Reader.natural32 s).map fun scale => .scalar (.decimal precision scale)
  | .enumeration width => fun s =>
      (Reader.inParens (Reader.separated member) s).map
        fun members => .scalar (.enumeration width members)
  | .array => fun s => (Reader.inParens inner s).map .array
  | .nullable => fun s => (Reader.inParens inner s).map .nullable
  | .lowCardinality => fun s => (Reader.inParens inner s).map .lowCardinality
  | .tuple => tupleBody inner
  | .map => fun s =>
      (Reader.inParens (Reader.separatedPair inner Reader.spacedComma inner) s).map
        fun (key, value) => .map key value

/-- Read a type name.  An unknown word is rejected at its start.  Types nest at
most `depth` levels deep. -/
def reader : (depth : Nat) → Reader ColumnType
  | 0 => fun s => .rejected s
  | depth + 1 => fun s =>
      let start := Reader.skipSpacing s
      (Reader.word start).andThen fun name rest =>
        match typeWord? name with
        | some word => bodyReader (reader depth) word rest
        | none => .rejected start

/-- The byte position of a place in a source text. -/
def position (source place : List Char) : Nat :=
  byteLength source - byteLength place

/-- Read a whole type name and check the type.  Types cannot nest deeper than
their name is long. -/
def parse (name : String) : Except Error ColumnType :=
  let source := trim name.toList
  match reader (source.length + 1) source with
  | .parsed type rest =>
      if (trim rest).isEmpty then
        match validate type with
        | .ok _ => .ok type
        | .error fault => .error (.type fault)
      else
        .error (.parse (position source rest)
          (.textAfterType (String.ofList rest) (String.ofList source)))
  | .rejected place =>
      .error (.parse (position source place) (.malformedType (String.ofList source)))
  | .aborted place =>
      .error (.parse (position source place) (.malformedType (String.ofList source)))

end ColumnType

end ColumnarSql
