/-
Module: ColumnarSql.Text.Hexadecimal
Purpose: Hexadecimal digits.
Main exports:
  hexValue?, isHexDigit, takeHex
-/

namespace ColumnarSql.Text

/-- The value of a hexadecimal digit of either case. -/
def hexValue? (c : Char) : Option Nat :=
  if c.isDigit then some (c.toNat - '0'.toNat)
  else if 'a' ≤ c && c ≤ 'f' then some (c.toNat - 'a'.toNat + 10)
  else if 'A' ≤ c && c ≤ 'F' then some (c.toNat - 'A'.toNat + 10)
  else none

/-- A hexadecimal digit of either case. -/
def isHexDigit (c : Char) : Bool :=
  (hexValue? c).isSome

/-- Read exactly `count` more digits of a number whose digits so far have the
value `value`. -/
def takeHex : (count value : Nat) → List Char → Option (Nat × List Char)
  | 0, value, s => some (value, s)
  | _ + 1, _, [] => none
  | count + 1, value, c :: rest =>
      match hexValue? c with
      | some digit => takeHex count (value * 16 + digit) rest
      | none => none

end ColumnarSql.Text
