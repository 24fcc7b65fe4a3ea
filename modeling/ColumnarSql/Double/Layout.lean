/-
Module: ColumnarSql.Double.Layout
Purpose: Texts of floating-point numbers.
Main exports:
  Double.Layout, Double.Layout.plain, Double.Layout.diagnostic,
  Double.Layout.json, Double.Layout.write
-/
import ColumnarSql.Double.Shortest
import ColumnarSql.Text.Number

namespace ColumnarSql.Double

open Text

/-!
All texts of a finite number use its shortest digits.  They differ in where
they change from positional to scientific form, in how a whole number and a
positive exponent are marked, and in the choice between two shortest decimals
that are equally near.
-/

/-- Decisions of a textual form. -/
structure Layout where
  /-- Whether a number whose first digit has this decimal exponent is written
  positionally. -/
  positional : Int → Bool
  /-- Whether a whole number written positionally ends in `.0`. -/
  marksWhole : Bool
  /-- Whether a positive exponent has a plus sign. -/
  marksPlus : Bool
  /-- Which of two equally near shortest decimals is written. -/
  ties : TieRule

/-- SQL text: always positional, and whole numbers look like integers. -/
def Layout.plain : Layout :=
  ⟨fun _ => true, false, false, .up⟩

/-- Text inside error messages: scientific from `1e16` up and below `1e-4`. -/
def Layout.diagnostic : Layout :=
  ⟨fun e => -4 ≤ e && e < 16, true, false, .up⟩

/-- Text in JSON: scientific from `1e+16` up and below `1e-5`. -/
def Layout.json : Layout :=
  ⟨fun e => -5 ≤ e && e < 16, true, true, .even⟩

/-- Digits and a decimal point; `point` digits stand before the point. -/
def positionalText (marksWhole : Bool) (digits : List Char) (point : Int) : List Char :=
  if (digits.length : Int) ≤ point then
    digits ++ List.replicate (point.toNat - digits.length) '0' ++
      (if marksWhole then ['.', '0'] else [])
  else if 0 < point then
    digits.take point.toNat ++ '.' :: digits.drop point.toNat
  else
    '0' :: '.' :: List.replicate (-point).toNat '0' ++ digits

/-- One digit, the others after a point, and the exponent of the first. -/
def scientificText (marksPlus : Bool) (digits : List Char) (exponent : Int) : List Char :=
  let fraction := digits.drop 1
  let sign := if exponent < 0 then ['-'] else if marksPlus then ['+'] else []
  digits.take 1 ++ (if fraction.isEmpty then [] else '.' :: fraction) ++
    'e' :: sign ++ digitsOf exponent.natAbs

/-- The text of a finite magnitude. -/
def Layout.magnitude (layout : Layout) (rank : Nat) : List Char :=
  let decimal := shortest layout.ties rank
  let digits := digitsOf decimal.digits
  let point := digits.length + decimal.exponent
  if rank == 0 || layout.positional (point - 1) then
    positionalText layout.marksWhole digits point
  else
    scientificText layout.marksPlus digits (point - 1)

/-- The text of a number. -/
def Layout.write (layout : Layout) : Double → String
  | .nan => "NaN"
  | .number negative rank =>
      let magnitude :=
        if infinityRank ≤ rank.val then "inf".toList else layout.magnitude rank.val
      String.ofList (if negative then '-' :: magnitude else magnitude)

end ColumnarSql.Double
