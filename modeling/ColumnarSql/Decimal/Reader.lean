/-
Module: ColumnarSql.Decimal.Reader
Purpose: Reading decimal numbers from positional and scientific texts.
Main exports:
  Decimal.readPositional?, Decimal.readScientific?, Decimal.read?
-/
import ColumnarSql.Decimal.Basic

namespace ColumnarSql.Decimal

open Text

/-!
Digits are taken from the left for as long as the mantissa has room for them.
Running out of room before the point is an error.  After the point the first
digit that finds no room, or that would be the 29th of the fraction, decides
the rounding, and the others are only required to be digits.  Underscores may
stand anywhere after the first digit.
-/

/-- How far a number has been read. -/
structure Progress where
  mantissa : Nat
  scale : Nat
  afterPoint : Bool
  hasDigits : Bool
deriving Repr, Inhabited, DecidableEq

/-- Append a digit. -/
def Progress.push (p : Progress) (digit : Nat) : Progress :=
  { p with
    mantissa := p.mantissa * 10 + digit
    scale := if p.afterPoint then p.scale + 1 else p.scale
    hasDigits := true }

/-- Close a number whose first dropped digit is known: from 5 on the mantissa
grows by one.  If that leaves its range, the number gives up one more digit of
its fraction. -/
def Progress.close (negative : Bool) (p : Progress) (dropped : Nat) : Option Decimal :=
  if dropped < 5 then
    ofParts? negative p.mantissa p.scale
  else if p.mantissa + 1 < mantissaBound then
    ofParts? negative (p.mantissa + 1) p.scale
  else if p.scale == 0 then
    none
  else
    ofParts? negative ((p.mantissa + 1 + 4) / 10) (p.scale - 1)

/-- The value of a character as a digit; an underscore counts as zero. -/
def droppedDigit? (c : Char) : Option Nat :=
  if c.isDigit then some (c.toNat - '0'.toNat)
  else if c == '_' then some 0
  else none

/-- Read digits, at most one point, and underscores to the end of the text. -/
def readBody (negative : Bool) (p : Progress) : List Char → Option Decimal
  | [] => if p.hasDigits then ofParts? negative p.mantissa p.scale else none
  | c :: rest =>
      if p.afterPoint && maxScale ≤ p.scale then
        -- The fraction has all the digits it may have.
        if rest.all (fun d => (droppedDigit? d).isSome) then
          (droppedDigit? c).bind (p.close negative)
        else
          none
      else if c.isDigit then
        let digit := c.toNat - '0'.toNat
        if mantissaBound ≤ p.mantissa * 10 + digit then
          -- The mantissa has no room for this digit.
          if p.afterPoint && rest.all (fun d => (droppedDigit? d).isSome) then
            p.close negative digit
          else
            none
        else
          readBody negative (p.push digit) rest
      else if c == '.' && !p.afterPoint then
        readBody negative { p with afterPoint := true } rest
      else if c == '_' && p.hasDigits then
        readBody negative p rest
      else
        none

/-- Read an optional sign and a positional number. -/
def readPositional? (s : List Char) : Option Decimal :=
  match s with
  | '-' :: rest => readBody true ⟨0, 0, false, false⟩ rest
  | '+' :: rest => readBody false ⟨0, 0, false, false⟩ rest
  | _ => readBody false ⟨0, 0, false, false⟩ s

/-- Apply a negative power of ten.  Where the scale would pass its bound, the
number is first rounded to the digits that can stay. -/
def shrinkBy? (d : Decimal) (exponent : Nat) : Option Decimal :=
  if maxScale < exponent then
    none
  else if maxScale < d.scale + exponent then
    (d.roundTo (maxScale - exponent) (Nat.sub_le _ _)).withScale? maxScale
  else
    d.withScale? (d.scale + exponent)

/-- Apply a positive power of ten: fraction digits move before the point, and
beyond them zeros are appended. -/
def growBy? (d : Decimal) (exponent : Nat) : Option Decimal :=
  if exponent ≤ d.scale then
    d.withScale? (d.scale - exponent)
  else if maxScale < exponent then
    none
  else
    ofParts? d.negative (d.mantissa * Nat.pow 10 (exponent - d.scale)) 0

/-- The text before and after the first `e` or `E`. -/
def splitExponent : List Char → Option (List Char × List Char)
  | [] => none
  | c :: rest =>
      if c == 'e' || c == 'E' then
        some ([], rest)
      else
        (splitExponent rest).map fun (base, exponent) => (c :: base, exponent)

/-- Read a number in scientific form. -/
def readScientific? (s : List Char) : Option Decimal :=
  match splitExponent s with
  | none => none
  | some (base, exponent) =>
      (readPositional? base).bind fun d =>
        match exponent with
        | '-' :: digits => (readNaturalUpTo? (Nat.pow 2 32 - 1) digits).bind (shrinkBy? d)
        | _ => (readNaturalUpTo? (Nat.pow 2 32 - 1) exponent).bind (growBy? d)

/-- Read a number in either form. -/
def read? (s : List Char) : Option Decimal :=
  (readPositional? s).or (readScientific? s)

end ColumnarSql.Decimal
