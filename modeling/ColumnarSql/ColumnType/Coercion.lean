/-
Module: ColumnarSql.ColumnType.Coercion
Purpose: Converting values into the form that a column stores.
Main exports:
  IntegerType.range, ColumnType.coerce
-/
import ColumnarSql.Calendar.Reader
import ColumnarSql.Collect
import ColumnarSql.Decimal.Reader
import ColumnarSql.Double.Reader
import ColumnarSql.Error
import ColumnarSql.Network.Address

namespace ColumnarSql

open Text

/-!
A column accepts the values of its own form and those that convert into it
without doubt: texts that write such a value, integers for decimals and
floats, dates for times and times for dates, names and values of enumeration
members.  Decimals are cut off at the scale of the column and never rounded.
-/

/-- The least and the greatest value that a column of an integer type takes.
Types of more than 64 bits take what 64 bits can hold. -/
def IntegerType.range : IntegerType → Int × Int
  | .int8 => (-128, 127)
  | .int16 => (-32768, 32767)
  | .int32 => (-2147483648, 2147483647)
  | .int64 => (-9223372036854775808, 9223372036854775807)
  | .int128 => (-9223372036854775808, 9223372036854775807)
  | .int256 => (-9223372036854775808, 9223372036854775807)
  | .uint8 => (0, 255)
  | .uint16 => (0, 65535)
  | .uint32 => (0, 4294967295)
  | .uint64 => (0, 18446744073709551615)
  | .uint128 => (0, 18446744073709551615)
  | .uint256 => (0, 18446744073709551615)

namespace Coercion

/-- The least integer of 128 bits. -/
def minInt128 : Int := -(Int.pow 2 127)

/-- The greatest integer of 128 bits. -/
def maxInt128 : Int := Int.pow 2 127 - 1

/-- The nearest integer of 128 bits. -/
def clamp128 (n : Int) : Int :=
  if n < minInt128 then minInt128 else if maxInt128 < n then maxInt128 else n

/-- The integer that a value is or writes. -/
def integerOf? : Value → Option Int
  | .int n => some n.toInt
  | .uint n => some (n.toNat : Int)
  | .bool b => some (if b then 1 else 0)
  | .float x => x.integer?.map clamp128
  | .decimal d => if d.isWhole then some d.integerPart else none
  | .string s => readIntegerWithin? minInt128 maxInt128 (trim s.toList)
  | _ => none

/-- The floating-point number that a value is or writes. -/
def floatOf? : Value → Option Double
  | .float x => some x
  | .int n => some (Double.ofInt n.toInt)
  | .uint n => some (Double.ofInt n.toNat)
  | .decimal d => some (Double.ofScaled d.negative d.mantissa (-(d.scale : Int)))
  | .string s => Double.read? (trim s.toList)
  | _ => none

/-- The truth value that a value is. -/
def boolOf? : Value → Option Bool
  | .bool b => some b
  | .int n => if n == 0 then some false else if n == 1 then some true else none
  | .uint n => if n == 0 then some false else if n == 1 then some true else none
  | _ => none

/-- The decimal that a value is or writes.  A float counts as the decimal that
its shortest text writes. -/
def decimalOf? : Value → Option Decimal
  | .decimal d => some d
  | .int n => Decimal.ofInt? n.toInt
  | .uint n => Decimal.ofInt? n.toNat
  | .float x =>
      if x.isFinite then Decimal.readPositional? (Double.Layout.plain.write x).toList else none
  | .string s => Decimal.read? (trim s.toList)
  | _ => none

/-- The fault of a value of the wrong kind. -/
def unfit {α : Type} (value : Value) (type : Scalar) : Except ValueFault α :=
  .error (.mismatch value.kind (.scalar type))

/-- Integers within the range of the column. -/
def toInteger (type : IntegerType) (value : Value) : Except ValueFault Value :=
  match integerOf? value with
  | none => unfit value (.integer type)
  | some n =>
      if n < type.range.1 || type.range.2 < n then
        .error (.outOfRange n (.scalar (.integer type)))
      else
        .ok (.ofInteger n)

/-- Number of digits before the point, zeros in front not counted. -/
def wholeDigits (d : Decimal) : Nat :=
  if d.wholePart == 0 then 0 else (digitsOf d.wholePart).length

/-- Decimals cut off at the scale of the column, if their digits before the
point fit.  The result has as many fraction digits as the column, as far as the
mantissa can hold them. -/
def toDecimal (precision scale : UInt32) (value : Value) : Except ValueFault Value :=
  match decimalOf? value with
  | none => unfit value (.decimal precision scale)
  | some d =>
      let kept := d.truncateTo scale.toNat
      if precision.toNat - scale.toNat < wholeDigits kept then
        .error (.decimalTooLarge d (.scalar (.decimal precision scale)))
      else if scale.toNat ≤ Decimal.maxScale then
        .ok (.decimal (kept.growScale scale.toNat))
      else
        .ok (.decimal kept)

/-- Dates, also those of a time and those written as text. -/
def toDate : Value → Except ValueFault Value
  | .date d => .ok (.date d)
  | .dateTime moment => .ok (.date moment.date)
  | .string s =>
      match Date.read? (trim s.toList) with
      | some d => .ok (.date d)
      | none => .error (.notDate s)
  | value => unfit value .date

/-- Times, also the midnight of a date and those written as text. -/
def toDateTime : Value → Except ValueFault Value
  | .dateTime moment => .ok (.dateTime moment)
  | .date d => .ok (.dateTime d.midnight)
  | .string s =>
      match DateTime.read? (trim s.toList) with
      | some moment => .ok (.dateTime moment)
      | none => .error (.notDateTime s)
  | value => unfit value (.dateTime none)

/-- The member that a name or an integer stands for. -/
def memberOf? (members : List (String × Int16)) : Value → Option (String × Int16)
  | .string s => members.find? fun m => m.1 == s
  | .int n => members.find? fun m => m.2.toInt == n.toInt
  | _ => none

/-- Members of an enumeration, which are stored by name. -/
def toMember (width : EnumWidth) (members : List (String × Int16)) (value : Value) :
    Except ValueFault Value :=
  match memberOf? members value with
  | some m => .ok (.string m.1)
  | none => .error (.notMember value (.scalar (.enumeration width members)))

/-- Texts that satisfy a test. -/
def toText (type : Scalar) (test : String → Bool) (fault : String → ValueFault) :
    Value → Except ValueFault Value
  | .string s => if test s then .ok (.string s) else .error (fault s)
  | value => unfit value type

/-- Convert a value other than NULL for a scalar column. -/
def toScalar (type : Scalar) (value : Value) : Except ValueFault Value :=
  match type with
  | .integer integer => toInteger integer value
  | .float _ =>
      match floatOf? value with
      | some x => .ok (.float x)
      | none => unfit value type
  | .bool =>
      match boolOf? value with
      | some b => .ok (.bool b)
      | none => unfit value type
  | .string _ =>
      match value with
      | .string s => .ok (.string s)
      | value => unfit value type
  | .fixedString length =>
      toText type (fun s => s.utf8ByteSize ≤ length.toNat) (.tooLong · length) value
  | .uuid => toText type (fun s => Network.isUuid s.toList) .notUuid value
  | .ipv4 => toText type (fun s => Network.isIPv4 s.toList) .notIPv4 value
  | .ipv6 => toText type (fun s => Network.isIPv6 s.toList) .notIPv6 value
  | .date => toDate value
  | .date32 => toDate value
  | .dateTime _ => toDateTime value
  | .dateTime64 _ _ => toDateTime value
  | .decimal precision scale => toDecimal precision scale value
  | .enumeration width members => toMember width members value

/-- Convert the two parts of a map entry, the key first. -/
def toEntry (key value : Value → Except ValueFault Value) (entry : Value × Value) :
    Except ValueFault (Value × Value) :=
  match key entry.1 with
  | .error fault => .error fault
  | .ok k =>
      match value entry.2 with
      | .error fault => .error fault
      | .ok v => .ok (k, v)

/-- Prepend a converted item to the conversion of the others. -/
def consItem (first : Except ValueFault Value) (rest : Except ValueFault (List Value)) :
    Except ValueFault (List Value) :=
  match first with
  | .error fault => .error fault
  | .ok item =>
      match rest with
      | .error fault => .error fault
      | .ok items => .ok (item :: items)

end Coercion

namespace ColumnType

open Coercion

mutual

/-- Convert a value into the form that a column of this type stores. -/
def coerce : ColumnType → Value → Except ValueFault Value
  | .nullable inner, value =>
      match value with
      | .null => .ok .null
      | value => coerce inner value
  | .lowCardinality inner, value => coerce inner value
  | .scalar type, value =>
      match value with
      | .null => .error (.nullNotAllowed (.scalar type))
      | value => toScalar type value
  | .array inner, value =>
      match value with
      | .null => .error (.nullNotAllowed (.array inner))
      | .array items => (collect (coerce inner) items).map .array
      | value => .error (.mismatch value.kind (.array inner))
  | .tuple types, value =>
      match value with
      | .null => .error (.nullNotAllowed (.tuple types))
      | .tuple items =>
          if types.length != items.length then
            .error (.tupleLength (.tuple types) types.length items.length)
          else
            (coerceItems types items).map .tuple
      | value => .error (.mismatch value.kind (.tuple types))
  | .namedTuple elements, value =>
      match value with
      | .null => .error (.nullNotAllowed (.namedTuple elements))
      | .tuple items =>
          if elements.length != items.length then
            .error (.tupleLength (.namedTuple elements) elements.length items.length)
          else
            (coerceElements elements items).map .tuple
      | value => .error (.mismatch value.kind (.namedTuple elements))
  | .map key val, value =>
      match value with
      | .null => .error (.nullNotAllowed (.map key val))
      | .map entries => (collect (toEntry (coerce key) (coerce val)) entries).map .map
      | value => .error (.mismatch value.kind (.map key val))

/-- Convert the items of a tuple, each for its own type. -/
def coerceItems : List ColumnType → List Value → Except ValueFault (List Value)
  | type :: types, item :: items => consItem (coerce type item) (coerceItems types items)
  | _, _ => .ok []

/-- Convert the items of a tuple whose elements have names. -/
def coerceElements : List (String × ColumnType) → List Value → Except ValueFault (List Value)
  | (_, type) :: rest, item :: items => consItem (coerce type item) (coerceElements rest items)
  | _, _ => .ok []

end

end ColumnType

end ColumnarSql
