/-
Module: ColumnarSql.ColumnType.Printer
Purpose: The names of column types.
Main exports:
  IntegerType.name, EnumWidth.name, Scalar.render, ColumnType.render
-/
import ColumnarSql.ColumnType.Basic
import ColumnarSql.Text.Quoted

namespace ColumnarSql

open Text

/-- The name of an integer type. -/
def IntegerType.name : IntegerType → String
  | .int8 => "Int8"
  | .int16 => "Int16"
  | .int32 => "Int32"
  | .int64 => "Int64"
  | .int128 => "Int128"
  | .int256 => "Int256"
  | .uint8 => "UInt8"
  | .uint16 => "UInt16"
  | .uint32 => "UInt32"
  | .uint64 => "UInt64"
  | .uint128 => "UInt128"
  | .uint256 => "UInt256"

/-- The name of a floating-point type. -/
def FloatWidth.name : FloatWidth → String
  | .float32 => "Float32"
  | .float64 => "Float64"

/-- The name of an enumeration type, without its members. -/
def EnumWidth.name : EnumWidth → String
  | .enum8 => "Enum8"
  | .enum16 => "Enum16"

/-- A member of an enumeration type. -/
def renderMember (member : String × Int16) : String :=
  quotedString member.1 ++ " = " ++ toString member.2.toInt

/-- The name of a scalar type, with its parameters. -/
def Scalar.render : Scalar → String
  | .integer type => type.name
  | .float width => width.name
  | .bool => "Bool"
  | .string none => "String"
  | .string (some n) => "String(" ++ toString n.toNat ++ ")"
  | .fixedString n => "FixedString(" ++ toString n.toNat ++ ")"
  | .uuid => "UUID"
  | .date => "Date"
  | .date32 => "Date32"
  | .dateTime none => "DateTime"
  | .dateTime (some zone) => "DateTime(" ++ quotedString zone ++ ")"
  | .dateTime64 p none => "DateTime64(" ++ toString p.toNat ++ ")"
  | .dateTime64 p (some zone) =>
      "DateTime64(" ++ toString p.toNat ++ ", " ++ quotedString zone ++ ")"
  | .ipv4 => "IPv4"
  | .ipv6 => "IPv6"
  | .decimal p s => "Decimal(" ++ toString p.toNat ++ ", " ++ toString s.toNat ++ ")"
  | .enumeration width members =>
      width.name ++ "(" ++ joinWith ", " (members.map renderMember) ++ ")"

namespace ColumnType

mutual

/-- The name of a column type, as the server writes it. -/
def render : ColumnType → String
  | .scalar type => type.render
  | .array inner => "Array(" ++ render inner ++ ")"
  | .nullable inner => "Nullable(" ++ render inner ++ ")"
  | .lowCardinality inner => "LowCardinality(" ++ render inner ++ ")"
  | .tuple items => "Tuple(" ++ joinWith ", " (renderItems items) ++ ")"
  | .namedTuple items => "Tuple(" ++ joinWith ", " (renderElements items) ++ ")"
  | .map key value => "Map(" ++ render key ++ ", " ++ render value ++ ")"

/-- The names of the types in a list. -/
def renderItems : List ColumnType → List String
  | [] => []
  | item :: rest => render item :: renderItems rest

/-- Element names with the names of their types. -/
def renderElements : List (String × ColumnType) → List String
  | [] => []
  | (name, item) :: rest => (name ++ " " ++ render item) :: renderElements rest

end

end ColumnType

end ColumnarSql
