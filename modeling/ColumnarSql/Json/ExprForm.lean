/-
Module: ColumnarSql.Json.ExprForm
Purpose: The JSON form of expressions.
Main exports:
  Expr.toJson, Expr.ofJson?
-/
import ColumnarSql.Expr.Basic
import ColumnarSql.Json.TypeForm
import ColumnarSql.Json.ValueForm

namespace ColumnarSql

open Json

/-- The JSON name of an operator. -/
def BinaryOp.jsonName : BinaryOp → String
  | .eq => "Eq"
  | .notEq => "NotEq"
  | .lt => "Lt"
  | .ltEq => "LtEq"
  | .gt => "Gt"
  | .gtEq => "GtEq"
  | .like => "Like"
  | .notLike => "NotLike"
  | .ilike => "ILike"
  | .notILike => "NotILike"
  | .and => "And"
  | .or => "Or"
  | .plus => "Plus"
  | .minus => "Minus"
  | .multiply => "Multiply"
  | .divide => "Divide"
  | .modulo => "Modulo"

/-- All operators. -/
def BinaryOp.all : List BinaryOp :=
  [.eq, .notEq, .lt, .ltEq, .gt, .gtEq, .like, .notLike, .ilike, .notILike, .and, .or, .plus,
    .minus, .multiply, .divide, .modulo]

/-- Decode one of some things that are written as a name. -/
def named? {α : Type} (all : List α) (name : α → String) (json : Json) : Option α :=
  match variant? json with
  | none => none
  | some (found, content) =>
      match all.find? fun a => name a == found with
      | some a => unit? a content
      | none => none

/-- Decode an operator. -/
def BinaryOp.ofJson? : Json → Option BinaryOp :=
  named? BinaryOp.all BinaryOp.jsonName

namespace Expr

mutual

/-- The JSON form of an expression. -/
def toJson : Expr → Json
  | .column table name =>
      tagged "Column" (.object [("table", ofString? table), ("name", .string name)])
  | .star => .string "Star"
  | .literal value => tagged "Literal" value.toJson
  | .bind key value => tagged "Bind" (.object [("key", ofString? key), ("value", value.toJson)])
  | .label e name => tagged "Label" (.object [("expr", toJson e), ("name", .string name)])
  | .function name args =>
      tagged "Function" (.object [("name", .string name), ("args", .array (listToJson args))])
  | .binary left op right =>
      tagged "Binary" (.object
        [("left", toJson left), ("op", .string op.jsonName), ("right", toJson right)])
  | .not e => tagged "Not" (toJson e)
  | .isNull e negated => tagged "IsNull" (.object [("expr", toJson e), ("negated", .bool negated)])
  | .inList e list negated =>
      tagged "InList" (.object
        [("expr", toJson e), ("list", .array (listToJson list)), ("negated", .bool negated)])
  | .distinctFrom left right negated =>
      tagged "DistinctFrom" (.object
        [("left", toJson left), ("right", toJson right), ("negated", .bool negated)])
  | .tuple items => tagged "Tuple" (.array (listToJson items))
  | .extract field e =>
      tagged "Extract" (.object [("field", .string field), ("expr", toJson e)])
  | .cast e type => tagged "Cast" (.object [("expr", toJson e), ("ty", type.toJson)])
  | .lambda param body =>
      tagged "Lambda" (.object [("param", .string param), ("body", toJson body)])
  | .raw sql => tagged "Raw" (.string sql)

/-- The JSON forms of some expressions. -/
def listToJson : List Expr → List Json
  | [] => []
  | e :: rest => toJson e :: listToJson rest

end

/-! ### Decoding

Each variant is decoded with the decoder for the expressions inside it. -/

/-- Decode a column. -/
def columnOfJson? (json : Json) : Option Expr := do
  let fields ← Fields.ofJson? ["table", "name"] json
  let table ← fields.optional "table" string?
  let name ← fields.required "name" string?
  return .column table name

/-- Decode a bound value. -/
def bindOfJson? (json : Json) : Option Expr := do
  let fields ← Fields.ofJson? ["key", "value"] json
  let key ← fields.optional "key" string?
  let value ← fields.required "value" Value.ofJson?
  return .bind key value

/-- Decode a label. -/
def labelOfJson? (inner : Json → Option Expr) (json : Json) : Option Expr := do
  let fields ← Fields.ofJson? ["expr", "name"] json
  let e ← fields.required "expr" inner
  let name ← fields.required "name" string?
  return .label e name

/-- Decode a function call. -/
def functionOfJson? (inner : Json → Option Expr) (json : Json) : Option Expr := do
  let fields ← Fields.ofJson? ["name", "args"] json
  let name ← fields.required "name" string?
  let args ← fields.required "args" (list? inner)
  return .function name args

/-- Decode an operator with its operands. -/
def binaryOfJson? (inner : Json → Option Expr) (json : Json) : Option Expr := do
  let fields ← Fields.ofJson? ["left", "op", "right"] json
  let left ← fields.required "left" inner
  let op ← fields.required "op" BinaryOp.ofJson?
  let right ← fields.required "right" inner
  return .binary left op right

/-- Decode a test for NULL. -/
def isNullOfJson? (inner : Json → Option Expr) (json : Json) : Option Expr := do
  let fields ← Fields.ofJson? ["expr", "negated"] json
  let e ← fields.required "expr" inner
  let negated ← fields.required "negated" bool?
  return .isNull e negated

/-- Decode a test for membership in a list. -/
def inListOfJson? (inner : Json → Option Expr) (json : Json) : Option Expr := do
  let fields ← Fields.ofJson? ["expr", "list", "negated"] json
  let e ← fields.required "expr" inner
  let list ← fields.required "list" (list? inner)
  let negated ← fields.required "negated" bool?
  return .inList e list negated

/-- Decode a comparison in which NULL counts as a value. -/
def distinctFromOfJson? (inner : Json → Option Expr) (json : Json) : Option Expr := do
  let fields ← Fields.ofJson? ["left", "right", "negated"] json
  let left ← fields.required "left" inner
  let right ← fields.required "right" inner
  let negated ← fields.required "negated" bool?
  return .distinctFrom left right negated

/-- Decode a field of a date. -/
def extractOfJson? (inner : Json → Option Expr) (json : Json) : Option Expr := do
  let fields ← Fields.ofJson? ["field", "expr"] json
  let field ← fields.required "field" string?
  let e ← fields.required "expr" inner
  return .extract field e

/-- Decode a cast. -/
def castOfJson? (inner : Json → Option Expr) (json : Json) : Option Expr := do
  let fields ← Fields.ofJson? ["expr", "ty"] json
  let e ← fields.required "expr" inner
  let type ← fields.required "ty" ColumnType.ofJson?
  return .cast e type

/-- Decode a lambda expression. -/
def lambdaOfJson? (inner : Json → Option Expr) (json : Json) : Option Expr := do
  let fields ← Fields.ofJson? ["param", "body"] json
  let param ← fields.required "param" string?
  let body ← fields.required "body" inner
  return .lambda param body

/-- Decode an expression whose form nests at most `depth` levels deep. -/
def decode? : (depth : Nat) → Json → Option Expr
  | 0, _ => none
  | depth + 1, json =>
      match variant? json with
      | none => none
      | some ("Star", content) => unit? .star content
      | some (_, none) => none
      | some (name, some content) =>
          match name with
          | "Column" => columnOfJson? content
          | "Literal" => (Value.ofJson? content).map .literal
          | "Bind" => bindOfJson? content
          | "Label" => labelOfJson? (decode? depth) content
          | "Function" => functionOfJson? (decode? depth) content
          | "Binary" => binaryOfJson? (decode? depth) content
          | "Not" => (decode? depth content).map .not
          | "IsNull" => isNullOfJson? (decode? depth) content
          | "InList" => inListOfJson? (decode? depth) content
          | "DistinctFrom" => distinctFromOfJson? (decode? depth) content
          | "Tuple" => (list? (decode? depth) content).map .tuple
          | "Extract" => extractOfJson? (decode? depth) content
          | "Cast" => castOfJson? (decode? depth) content
          | "Lambda" => lambdaOfJson? (decode? depth) content
          | "Raw" => (string? content).map .raw
          | _ => none

/-- Decode an expression. -/
def ofJson? (json : Json) : Option Expr :=
  decode? (json.depth + 1) json

end Expr

end ColumnarSql
