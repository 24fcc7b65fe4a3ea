/-
Module: ColumnarSql.Value.Basic
Purpose: Values that are bound into statements or stored in columns.
Main exports:
  Value, Value.kind, Value.isNull, Value.ofInteger, Value.ofUInt64, Value.same
-/
import ColumnarSql.Calendar.Basic
import ColumnarSql.Decimal.Basic
import ColumnarSql.Double.Basic

namespace ColumnarSql

/-- A value.  Integers are signed; the unsigned form is for those above the
signed range. -/
inductive Value where
  | null
  | bool (b : Bool)
  | int (n : Int64)
  | uint (n : UInt64)
  | float (x : Double)
  | string (s : String)
  | decimal (d : Decimal)
  | date (d : Date)
  | dateTime (moment : DateTime)
  | array (items : List Value)
  | tuple (items : List Value)
  | map (entries : List (Value × Value))
deriving Inhabited

namespace Value

/-- The kind of a value, as messages name it. -/
def kind : Value → String
  | .null => "NULL"
  | .bool _ => "bool"
  | .int _ => "integer"
  | .uint _ => "integer"
  | .float _ => "float"
  | .string _ => "string"
  | .decimal _ => "decimal"
  | .date _ => "date"
  | .dateTime _ => "datetime"
  | .array _ => "array"
  | .tuple _ => "tuple"
  | .map _ => "map"

/-- Whether a value is NULL. -/
def isNull : Value → Bool
  | .null => true
  | _ => false

/-- The value of an integer between the least signed and the greatest unsigned
number of 64 bits: signed if it can be, unsigned otherwise. -/
def ofInteger (n : Int) : Value :=
  if n < Int.pow 2 63 then .int (Int64.ofInt n) else .uint (UInt64.ofNat n.toNat)

/-- The value of an unsigned number. -/
def ofUInt64 (n : UInt64) : Value :=
  ofInteger n.toNat

mutual

/-- Equality of values as numbers and texts: decimals compare by numeric value,
NaN differs from itself, and an integer differs from a float. -/
def same : Value → Value → Bool
  | .null, .null => true
  | .bool a, .bool b => a == b
  | .int a, .int b => a == b
  | .uint a, .uint b => a == b
  | .float a, .float b => a.sameNumber b
  | .string a, .string b => a == b
  | .decimal a, .decimal b => a.sameNumber b
  | .date a, .date b => a == b
  | .dateTime a, .dateTime b => a == b
  | .array a, .array b => sameItems a b
  | .tuple a, .tuple b => sameItems a b
  | .map a, .map b => sameEntries a b
  | _, _ => false

/-- Itemwise `same`. -/
def sameItems : List Value → List Value → Bool
  | [], [] => true
  | a :: as, b :: bs => same a b && sameItems as bs
  | _, _ => false

/-- Entrywise `same`. -/
def sameEntries : List (Value × Value) → List (Value × Value) → Bool
  | [], [] => true
  | (k, v) :: as, (k', v') :: bs => same k k' && same v v' && sameEntries as bs
  | _, _ => false

end

end Value

end ColumnarSql
