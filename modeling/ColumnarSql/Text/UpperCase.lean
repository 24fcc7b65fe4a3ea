/-
Module: ColumnarSql.Text.UpperCase
Purpose: Keywords written in any case and with any blanks between their words.
Main exports:
  upperCase, keyword
-/
import ColumnarSql.Text.Blank

namespace ColumnarSql.Text

/-- The upper-case form of a character, for the characters whose form is
written with ASCII letters.  No other character can be part of a keyword; such
a character stays as it is. -/
def upperCase (c : Char) : List Char :=
  let n := c.toNat
  if n == 0x131 then ['I']
  else if n == 0x17F then ['S']
  else if n == 0xDF then ['S', 'S']
  else if n == 0xFB00 then ['F', 'F']
  else if n == 0xFB01 then ['F', 'I']
  else if n == 0xFB02 then ['F', 'L']
  else if n == 0xFB03 then ['F', 'F', 'I']
  else if n == 0xFB04 then ['F', 'F', 'L']
  else if n == 0xFB05 then ['S', 'T']
  else if n == 0xFB06 then ['S', 'T']
  else [c.toUpper]

/-- The words of a text in upper case, with one space between them. -/
def keyword (s : String) : String :=
  let parts := (words s.toList).map fun word => String.ofList (word.flatMap upperCase)
  joinWith " " parts

end ColumnarSql.Text
