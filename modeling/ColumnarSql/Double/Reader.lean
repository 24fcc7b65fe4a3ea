/-
Module: ColumnarSql.Double.Reader
Purpose: Reading floating-point numbers from text.
Main exports:
  Double.read?
-/
import ColumnarSql.Double.Basic
import ColumnarSql.Text.Number

namespace ColumnarSql.Double

open Text

/-- Split off a leading sign; `true` means minus. -/
def splitSign : List Char → Bool × List Char
  | '-' :: rest => (true, rest)
  | '+' :: rest => (false, rest)
  | s => (false, s)

/-- Read the exponent part, which may be absent. -/
def readExponent? : List Char → Option Int
  | [] => some 0
  | c :: rest =>
      if c == 'e' || c == 'E' then
        let (negative, digits) := splitSign rest
        (readDigits? digits).map fun n => if negative then -(n : Int) else (n : Int)
      else
        none

/-- Read an unsigned decimal numeral: digits, an optional point with digits on
at least one side of it, and an optional exponent. -/
def readNumeral? (negative : Bool) (s : List Char) : Option Double :=
  let whole := s.takeWhile Char.isDigit
  let afterWhole := s.dropWhile Char.isDigit
  let (fraction, rest) : List Char × List Char :=
    match afterWhole with
    | '.' :: tail => (tail.takeWhile Char.isDigit, tail.dropWhile Char.isDigit)
    | tail => ([], tail)
  if whole.isEmpty && fraction.isEmpty then
    none
  else
    (readExponent? rest).map fun exponent =>
      ofScaled negative (digitsValue (whole ++ fraction)) (exponent - fraction.length)

/-- Read a number: an optional sign, then `inf`, `infinity` or `nan` in any
case, or a numeral.  The result is correctly rounded. -/
def read? (s : List Char) : Option Double :=
  let (negative, body) := splitSign s
  let word := String.ofList (body.map Char.toLower)
  if word == "inf" || word == "infinity" then some (infinite negative)
  else if word == "nan" then some .nan
  else readNumeral? negative body

end ColumnarSql.Double
