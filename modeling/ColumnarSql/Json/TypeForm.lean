/-
Module: ColumnarSql.Json.TypeForm
Purpose: The JSON form of column types.
Main exports:
  ColumnType.toJson, ColumnType.ofJson?
-/
import ColumnarSql.ColumnType.Printer
import ColumnarSql.Json.Fields

namespace ColumnarSql

open Json

/-- The JSON form of a member of an enumeration. -/
def memberToJson (member : String × Int16) : Json :=
  .array [.string member.1, .integer member.2.toInt]

/-- An unsigned integer as JSON. -/
def natJson (n : UInt32) : Json :=
  .integer n.toNat

/-- The JSON form of a scalar type. -/
def Scalar.toJson : Scalar → Json
  | .integer type => .string type.name
  | .float width => .string width.name
  | .bool => .string "Bool"
  | .string none => .string "String"
  | .string (some n) => tagged "BoundedString" (natJson n)
  | .fixedString n => tagged "FixedString" (natJson n)
  | .uuid => .string "Uuid"
  | .date => .string "Date"
  | .date32 => .string "Date32"
  | .dateTime zone => tagged "DateTime" (ofString? zone)
  | .dateTime64 p zone =>
      tagged "DateTime64" (.object [("precision", natJson p), ("timezone", ofString? zone)])
  | .ipv4 => .string "IPv4"
  | .ipv6 => .string "IPv6"
  | .decimal p s => tagged "Decimal" (.object [("precision", natJson p), ("scale", natJson s)])
  | .enumeration width members => tagged width.name (.array (members.map memberToJson))

/-- The scalar types that are written as a name alone. -/
def Scalar.ofJsonName? : String → Option Scalar
  | "Int8" => some (.integer .int8)
  | "Int16" => some (.integer .int16)
  | "Int32" => some (.integer .int32)
  | "Int64" => some (.integer .int64)
  | "Int128" => some (.integer .int128)
  | "Int256" => some (.integer .int256)
  | "UInt8" => some (.integer .uint8)
  | "UInt16" => some (.integer .uint16)
  | "UInt32" => some (.integer .uint32)
  | "UInt64" => some (.integer .uint64)
  | "UInt128" => some (.integer .uint128)
  | "UInt256" => some (.integer .uint256)
  | "Float32" => some (.float .float32)
  | "Float64" => some (.float .float64)
  | "Bool" => some .bool
  | "String" => some (.string none)
  | "Uuid" => some .uuid
  | "Date" => some .date
  | "Date32" => some .date32
  | "IPv4" => some .ipv4
  | "IPv6" => some .ipv6
  | _ => none

/-- Decode the precision and time zone of a date with time. -/
def dateTime64OfJson? (json : Json) : Option Scalar := do
  let fields ← Fields.ofJson? ["precision", "timezone"] json
  let precision ← fields.required "precision" uint32?
  let zone ← fields.optional "timezone" string?
  return .dateTime64 precision zone

/-- Decode the precision and scale of a decimal. -/
def decimalTypeOfJson? (json : Json) : Option Scalar := do
  let fields ← Fields.ofJson? ["precision", "scale"] json
  let precision ← fields.required "precision" uint32?
  let scale ← fields.required "scale" uint32?
  return .decimal precision scale

/-- Decode a scalar type with content. -/
def Scalar.ofJsonContent? (name : String) (content : Json) : Option Scalar :=
  match name with
  | "BoundedString" => (uint32? content).map fun n => .string (some n)
  | "FixedString" => (uint32? content).map .fixedString
  | "DateTime" => (option? string? content).map .dateTime
  | "DateTime64" => dateTime64OfJson? content
  | "Decimal" => decimalTypeOfJson? content
  | "Enum8" => (list? (pair? string? int16?) content).map (.enumeration .enum8)
  | "Enum16" => (list? (pair? string? int16?) content).map (.enumeration .enum16)
  | _ => none

namespace ColumnType

mutual

/-- The JSON form of a column type. -/
def toJson : ColumnType → Json
  | .scalar type => type.toJson
  | .array inner => tagged "Array" (toJson inner)
  | .nullable inner => tagged "Nullable" (toJson inner)
  | .lowCardinality inner => tagged "LowCardinality" (toJson inner)
  | .tuple items => tagged "Tuple" (.array (itemsToJson items))
  | .namedTuple items => tagged "NamedTuple" (.array (elementsToJson items))
  | .map key value => tagged "Map" (.array [toJson key, toJson value])

/-- The JSON forms of some types. -/
def itemsToJson : List ColumnType → List Json
  | [] => []
  | item :: rest => toJson item :: itemsToJson rest

/-- The JSON forms of tuple elements, which are pairs. -/
def elementsToJson : List (String × ColumnType) → List Json
  | [] => []
  | (name, item) :: rest => .array [.string name, toJson item] :: elementsToJson rest

end

/-- Decode a column type whose form nests at most `depth` levels deep. -/
def decode? : (depth : Nat) → Json → Option ColumnType
  | 0, _ => none
  | depth + 1, json =>
      match variant? json with
      | none => none
      | some (name, content) =>
          match Scalar.ofJsonName? name, content with
          | some type, content => unit? (.scalar type) content
          | none, none => none
          | none, some content =>
              match name with
              | "Array" => (decode? depth content).map .array
              | "Nullable" => (decode? depth content).map .nullable
              | "LowCardinality" => (decode? depth content).map .lowCardinality
              | "Tuple" => (list? (decode? depth) content).map .tuple
              | "NamedTuple" => (list? (pair? string? (decode? depth)) content).map .namedTuple
              | "Map" =>
                  (pair? (decode? depth) (decode? depth) content).map fun (k, v) => .map k v
              | _ => (Scalar.ofJsonContent? name content).map .scalar

/-- Decode a column type. -/
def ofJson? (json : Json) : Option ColumnType :=
  decode? (json.depth + 1) json

end ColumnType

end ColumnarSql
