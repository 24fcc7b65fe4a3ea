/-
Module: ColumnarSql.ColumnType.Validity
Purpose: The column types that the server accepts.
Main exports:
  ColumnType.validate, ColumnType.decimal, ColumnType.fixedString,
  ColumnType.enumeration
-/
import ColumnarSql.Error

namespace ColumnarSql

open Text

namespace ColumnType

/-- The greatest precision of a date with time and fraction. -/
def maxDateTimePrecision : Nat := 9

/-- The greatest precision of a decimal. -/
def maxDecimalPrecision : Nat := 38

/-- A decimal has between 1 and 38 digits, and no more of them after the point
than it has. -/
def checkDecimalDigits (precision scale : UInt32) : Except TypeFault Unit :=
  if precision.toNat == 0 || maxDecimalPrecision < precision.toNat then
    .error (.decimalPrecision precision)
  else if precision.toNat < scale.toNat then
    .error (.decimalScale scale precision)
  else
    .ok ()

/-- Check members in order; `names` and `values` are those of the members
before. -/
def checkMembers (width : EnumWidth) (names : List String) (values : List Int16) :
    List (String × Int16) → Except TypeFault Unit
  | [] => .ok ()
  | (name, value) :: rest =>
      if value.toInt < width.range.1 || width.range.2 < value.toInt then
        .error (.memberOutOfRange width name value)
      else if names.contains name then
        .error (.memberRepeated width name)
      else if values.contains value then
        .error (.memberValueRepeated width value)
      else
        checkMembers width (name :: names) (value :: values) rest

/-- An enumeration has members, all in the range of its width, and no name or
value occurs twice. -/
def checkEnumeration (width : EnumWidth) (members : List (String × Int16)) :
    Except TypeFault Unit :=
  if members.isEmpty then .error (.noMembers width) else checkMembers width [] [] members

/-- The parameters of a scalar type. -/
def checkScalar : Scalar → Except TypeFault Unit
  | .fixedString length => if length.toNat == 0 then .error .emptyFixedString else .ok ()
  | .dateTime64 precision _ =>
      if maxDateTimePrecision < precision.toNat then .error (.dateTimePrecision precision)
      else .ok ()
  | .decimal precision scale => checkDecimalDigits precision scale
  | .enumeration width members => checkEnumeration width members
  | _ => .ok ()

mutual

/-- Check the parameters of a type and of every type inside it.  Only scalars
can be nullable. -/
def validate : ColumnType → Except TypeFault Unit
  | .scalar type => checkScalar type
  | .array inner => validate inner
  | .lowCardinality inner => validate inner
  | .nullable (.scalar type) => checkScalar type
  | .nullable inner => .error (.notNullable inner)
  | .tuple items => if items.isEmpty then .error .emptyTuple else validateItems items
  | .namedTuple items =>
      if items.isEmpty then .error .emptyTuple else validateElements [] items
  | .map key value => do
      validate key
      validate value

/-- Check the items of a tuple in order. -/
def validateItems : List ColumnType → Except TypeFault Unit
  | [] => .ok ()
  | item :: rest => do
      validate item
      validateItems rest

/-- Check the elements of a tuple in order; `names` are those of the elements
before.  Every element has a plain name of its own. -/
def validateElements (names : List String) :
    List (String × ColumnType) → Except TypeFault Unit
  | [] => .ok ()
  | (name, item) :: rest =>
      if !isWord name.toList then
        .error (.elementName name)
      else if names.contains name then
        .error (.elementRepeated name)
      else do
        validate item
        validateElements (name :: names) rest

end

/-- A decimal type with checked parameters. -/
def decimal (precision scale : UInt32) : Except TypeFault ColumnType := do
  checkDecimalDigits precision scale
  return .scalar (.decimal precision scale)

/-- A string type of bounded length with a checked bound. -/
def fixedString (length : UInt32) : Except TypeFault ColumnType := do
  checkScalar (.fixedString length)
  return .scalar (.fixedString length)

/-- An enumeration type with checked members. -/
def enumeration (width : EnumWidth) (members : List (String × Int16)) :
    Except TypeFault ColumnType := do
  checkEnumeration width members
  return .scalar (.enumeration width members)

end ColumnType

end ColumnarSql
