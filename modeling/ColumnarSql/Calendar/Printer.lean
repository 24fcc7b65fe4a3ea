/-
Module: ColumnarSql.Calendar.Printer
Purpose: Texts of dates and times.
Main exports:
  Date.chars, Date.text, Time.fractionText, Time.chars, DateTime.text
-/
import ColumnarSql.Calendar.Basic
import ColumnarSql.Text.Number

namespace ColumnarSql

open Text

/-- A year has at least four digits.  Outside 0 to 9999 it carries its sign. -/
def Date.yearText (year : Int) : List Char :=
  let digits := padded 4 year.natAbs
  if year < 0 then '-' :: digits
  else if 9999 < year then '+' :: digits
  else digits

/-- A date as year, month and day. -/
def Date.chars (date : Date) : List Char :=
  Date.yearText date.year ++ '-' :: padded 2 date.month ++ '-' :: padded 2 date.day

/-- `Date.chars` as a string. -/
def Date.text (date : Date) : String :=
  String.ofList date.chars

/-- The fraction of a second: nothing for zero, otherwise 3, 6 or 9 digits,
the fewest that are exact. -/
def Time.fractionText (nanosecond : Nat) : List Char :=
  if nanosecond == 0 then []
  else if nanosecond % 1000000 == 0 then '.' :: padded 3 (nanosecond / 1000000)
  else if nanosecond % 1000 == 0 then '.' :: padded 6 (nanosecond / 1000)
  else '.' :: padded 9 nanosecond

/-- A time as hour, minute and second with its fraction. -/
def Time.chars (time : Time) : List Char :=
  padded 2 time.hour ++ ':' :: padded 2 time.minute ++ ':' :: padded 2 time.second ++
    Time.fractionText time.nanosecond

/-- A date and a time with `separator` between them. -/
def DateTime.text (separator : Char) (moment : DateTime) : String :=
  String.ofList (moment.date.chars ++ separator :: moment.time.chars)

end ColumnarSql
