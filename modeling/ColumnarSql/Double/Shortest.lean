/-
Module: ColumnarSql.Double.Shortest
Purpose: The fewest decimal digits that read back as the same number.
Main exports:
  Double.Digits, Double.TieRule, Double.shortest
-/
import ColumnarSql.Double.Basic

namespace ColumnarSql.Double

/-!
On the grid of decimals with `n` significant digits, the two neighbours of a
magnitude are the only candidates worth trying: if any point of the grid reads
back as the magnitude, one of the two does.  The search tries the grids with
1, 2, … 17 digits and stops at the first with a hit.  The exact expansion
stands at the end of the search, so that the result always reads back.
-/

/-- The decimal `digits * 10 ^ exponent`. -/
structure Digits where
  digits : Nat
  exponent : Int
deriving DecidableEq, Repr, Inhabited

/-- Which of two equally near decimals is taken. -/
inductive TieRule where
  /-- The greater one. -/
  | up
  /-- The one with an even last digit. -/
  | even
deriving DecidableEq, Repr, Inhabited

/-- The exponent `e` with `10 ^ (e - 1) ≤ x < 10 ^ e` for a positive finite
magnitude `x`. -/
def decimalExponent (rank : Nat) : Int :=
  let units := unitsOf rank
  if unitsPerOne ≤ units then
    digitCount (units / unitsPerOne)
  else
    1 - (digitCount (unitsPerOne / units) : Int)

/-- A magnitude divided by `10 ^ exponent`, as a fraction. -/
def scaledDown (rank : Nat) (exponent : Int) : Nat × Nat :=
  if 0 ≤ exponent then
    (unitsOf rank, unitsPerOne * Nat.pow 10 exponent.toNat)
  else
    (unitsOf rank * Nat.pow 10 (-exponent).toNat, unitsPerOne)

/-- Whether a decimal is read as the magnitude of the given rank. -/
def readsAs (rank : Nat) (decimal : Digits) : Bool :=
  match ofScaled false decimal.digits decimal.exponent with
  | .number _ found => found.val == rank
  | .nan => false

/-- Whether the lower of two neighbours is preferred, given twice the distance
to it and the distance between the two. -/
def TieRule.prefersLower (ties : TieRule) (lower twiceAbove width : Nat) : Bool :=
  twiceAbove < width || (twiceAbove == width && ties == .even && lower % 2 == 0)

/-- The nearer neighbour, on the grid of multiples of `10 ^ exponent`, that
reads back as the magnitude. -/
def neighbour? (ties : TieRule) (rank : Nat) (exponent : Int) : Option Digits :=
  let (numerator, denominator) := scaledDown rank exponent
  let lower := numerator / denominator
  let below : Digits := ⟨lower, exponent⟩
  let above : Digits := ⟨lower + 1, exponent⟩
  let preferred := ties.prefersLower lower (2 * (numerator % denominator)) denominator
  if readsAs rank below && (preferred || !readsAs rank above) then some below
  else if readsAs rank above then some above
  else none

/-- A final zero belongs to the exponent. -/
def Digits.dropFinalZero (decimal : Digits) : Digits :=
  if decimal.digits % 10 == 0 then ⟨decimal.digits / 10, decimal.exponent + 1⟩ else decimal

/-- Try `count` grids, each with one digit more than the one before. -/
def searchShortest (ties : TieRule) (rank : Nat) (exponent : Int) : Nat → Digits
  | 0 => ⟨unitsOf rank * Nat.pow 5 1074, -1074⟩
  | count + 1 =>
      match neighbour? ties rank exponent with
      | some decimal => decimal.dropFinalZero
      | none => searchShortest ties rank (exponent - 1) count

/-- The shortest decimal that reads back as a finite magnitude. -/
def shortest (ties : TieRule) (rank : Nat) : Digits :=
  if rank == 0 then ⟨0, 0⟩ else searchShortest ties rank (decimalExponent rank - 1) 17

end ColumnarSql.Double
