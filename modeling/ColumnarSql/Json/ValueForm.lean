/-
Module: ColumnarSql.Json.ValueForm
Purpose: The JSON form of values.
Main exports:
  Value.toJson, Value.ofJson?
-/
import ColumnarSql.Calendar.Printer
import ColumnarSql.Calendar.Reader
import ColumnarSql.Decimal.Reader
import ColumnarSql.Json.Fields
import ColumnarSql.Value.Basic

namespace ColumnarSql.Value

open Json

mutual

/-- The JSON form of a value. -/
def toJson : Value → Json
  | .null => .string "Null"
  | .bool b => tagged "Bool" (.bool b)
  | .int n => tagged "Int" (.integer n.toInt)
  | .uint n => tagged "UInt" (.integer n.toNat)
  | .float x => tagged "Float" (.float x)
  | .string s => tagged "String" (.string s)
  | .decimal d => tagged "Decimal" (.string d.text)
  | .date d => tagged "Date" (.string d.text)
  | .dateTime moment => tagged "DateTime" (.string (moment.text 'T'))
  | .array items => tagged "Array" (.array (itemsToJson items))
  | .tuple items => tagged "Tuple" (.array (itemsToJson items))
  | .map entries => tagged "Map" (.array (entriesToJson entries))

/-- The JSON forms of some values. -/
def itemsToJson : List Value → List Json
  | [] => []
  | item :: rest => toJson item :: itemsToJson rest

/-- The JSON forms of map entries, which are pairs. -/
def entriesToJson : List (Value × Value) → List Json
  | [] => []
  | (key, value) :: rest => .array [toJson key, toJson value] :: entriesToJson rest

end

/-- Decode a decimal: a text, an integer, or a floating-point number that
counts as its shortest text. -/
def decimalOfJson? : Json → Option Decimal
  | .string s => Decimal.read? s.toList
  | .integer n => Decimal.ofInt? n
  | .float x => Decimal.readPositional? (Double.Layout.plain.write x).toList
  | _ => none

/-- Decode a value whose form nests at most `depth` levels deep. -/
def decode? : (depth : Nat) → Json → Option Value
  | 0, _ => none
  | depth + 1, json =>
      match variant? json with
      | none => none
      | some ("Null", content) => unit? .null content
      | some (_, none) => none
      | some (name, some content) =>
          match name with
          | "Bool" => (bool? content).map .bool
          | "Int" => (int64? content).map .int
          | "UInt" => (uint64? content).map .uint
          | "Float" => (double? content).map .float
          | "String" => (string? content).map .string
          | "Decimal" => (decimalOfJson? content).map .decimal
          | "Date" => ((string? content).bind fun s => Date.readLoose? s.toList).map .date
          | "DateTime" =>
              ((string? content).bind fun s => DateTime.readLoose? s.toList).map .dateTime
          | "Array" => (list? (decode? depth) content).map .array
          | "Tuple" => (list? (decode? depth) content).map .tuple
          | "Map" => (list? (pair? (decode? depth) (decode? depth)) content).map .map
          | _ => none

/-- Decode a value. -/
def ofJson? (json : Json) : Option Value :=
  decode? (json.depth + 1) json

end ColumnarSql.Value
