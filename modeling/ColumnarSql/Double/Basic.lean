/-
Module: ColumnarSql.Double.Basic
Purpose: Binary floating-point numbers of 64 bits and correct rounding to them.
Main exports:
  Double, Double.ofScaled, Double.ofInt, Double.integer?, Double.sameNumber
-/

namespace ColumnarSql

/-!
The magnitudes of the 64-bit binary floating-point numbers are ordered by
their bit patterns.  A number is therefore kept as its sign together with the
rank of its magnitude: rank 0 is zero, every next rank is the next larger
magnitude, and the last rank is infinity.

A magnitude below infinity is `mantissa * 2 ^ shift` units, where one unit is
`2 ^ -1074`, the mantissa has at most 53 bits, and the shift is positive only
for mantissas of exactly 53 bits.  Its rank is `shift * 2 ^ 52 + mantissa`.
-/

namespace Double

/-- The weight of the unit is `1 / unitsPerOne`. -/
def unitsPerOne : Nat := Nat.pow 2 1074

/-- The rank of infinity. -/
def infinityRank : Nat := 2047 * Nat.pow 2 52

end Double

/-- A 64-bit binary floating-point number; all NaNs are one value. -/
inductive Double where
  | nan
  | number (negative : Bool) (rank : Fin (Double.infinityRank + 1))
deriving DecidableEq, Repr

instance : Inhabited Double := ⟨.nan⟩

namespace Double

/-- The mantissa of a magnitude. -/
def mantissaOf (rank : Nat) : Nat :=
  if rank < Nat.pow 2 52 then rank else rank % Nat.pow 2 52 + Nat.pow 2 52

/-- The shift of a magnitude. -/
def shiftOf (rank : Nat) : Nat :=
  rank / Nat.pow 2 52 - 1

/-- A finite magnitude as a number of units. -/
def unitsOf (rank : Nat) : Nat :=
  mantissaOf rank * Nat.pow 2 (shiftOf rank)

/-- Rank of the magnitude nearest to `numerator / denominator`; of two equally
near ones the one with an even mantissa.  Magnitudes too large for the format
become infinity. -/
def nearestRank (numerator denominator : Nat) : Nat :=
  let scaled := numerator * unitsPerOne
  let whole := scaled / denominator
  let shift := whole.log2 - 52
  let mantissa := whole / Nat.pow 2 shift
  let remainder := whole % Nat.pow 2 shift * denominator + scaled % denominator
  let unit := Nat.pow 2 shift * denominator
  let up := unit < 2 * remainder || (2 * remainder == unit && mantissa % 2 == 1)
  min (shift * Nat.pow 2 52 + mantissa + up.toNat) infinityRank

theorem nearestRank_lt (numerator denominator : Nat) :
    nearestRank numerator denominator < infinityRank + 1 :=
  Nat.lt_succ_of_le (Nat.min_le_right _ _)

/-- The number nearest to a fraction. -/
def ofFraction (negative : Bool) (numerator denominator : Nat) : Double :=
  .number negative ⟨nearestRank numerator denominator, nearestRank_lt numerator denominator⟩

/-- Zero with a sign. -/
def zero (negative : Bool) : Double :=
  .number negative ⟨0, by decide⟩

/-- Infinity with a sign. -/
def infinite (negative : Bool) : Double :=
  .number negative ⟨infinityRank, Nat.lt_succ_self _⟩

/-- Number of decimal digits of a natural number. -/
def digitCount (n : Nat) : Nat :=
  (Nat.toDigits 10 n).length

/-- The number nearest to `digits * 10 ^ exponent`.  Exponents far outside the
format's range decide the result by themselves, so that no huge power is ever
computed. -/
def ofScaled (negative : Bool) (digits : Nat) (exponent : Int) : Double :=
  if digits == 0 then
    zero negative
  else if (310 : Int) < digitCount digits + exponent then
    infinite negative
  else if digitCount digits + exponent < (-330 : Int) then
    zero negative
  else if 0 ≤ exponent then
    ofFraction negative (digits * Nat.pow 10 exponent.toNat) 1
  else
    ofFraction negative digits (Nat.pow 10 (-exponent).toNat)

/-- The number nearest to an integer. -/
def ofInt (n : Int) : Double :=
  ofFraction (n < 0) n.natAbs 1

/-- Neither NaN nor an infinity. -/
def isFinite : Double → Bool
  | .nan => false
  | .number _ rank => rank.val < infinityRank

/-- The integer that a finite number without fraction part is. -/
def integer? : Double → Option Int
  | .nan => none
  | .number negative rank =>
      if infinityRank ≤ rank.val then
        none
      else if unitsOf rank.val % unitsPerOne == 0 then
        let magnitude : Int := unitsOf rank.val / unitsPerOne
        some (if negative then -magnitude else magnitude)
      else
        none

/-- Numeric equality: NaN differs from everything, the two zeros are equal. -/
def sameNumber : Double → Double → Bool
  | .number negative rank, .number negative' rank' =>
      rank == rank' && (negative == negative' || rank.val == 0)
  | _, _ => false

end Double

end ColumnarSql
