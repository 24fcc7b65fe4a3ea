/-
Module: ColumnarSql.Decimal.Basic
Purpose: Decimal numbers with a bounded mantissa, their text and their scaling.
Main exports:
  Decimal, Decimal.ofInt?, Decimal.text, Decimal.truncateTo, Decimal.growScale,
  Decimal.roundTo, Decimal.integerPart, Decimal.sameNumber
-/
import ColumnarSql.Text.Number

namespace ColumnarSql

/-!
A decimal number is a sign, a mantissa of at most 96 bits and a scale of at
most 28: the number of digits after the point.  `1.50` and `1.5` are different
decimals with the same numeric value.
-/

/-- One more than the largest mantissa. -/
def Decimal.mantissaBound : Nat := Nat.pow 2 96

/-- The largest scale. -/
def Decimal.maxScale : Nat := 28

/-- The decimal number `± mantissa / 10 ^ scale`. -/
structure Decimal where
  negative : Bool
  mantissa : Nat
  scale : Nat
  mantissa_lt : mantissa < Decimal.mantissaBound
  scale_le : scale ≤ Decimal.maxScale
deriving DecidableEq, Repr

namespace Decimal

/-- Zero without fraction digits. -/
def zero : Decimal :=
  ⟨false, 0, 0, by decide, by decide⟩

instance : Inhabited Decimal := ⟨zero⟩

/-- A decimal from its parts, if they are in range.  Zero has no sign. -/
def ofParts? (negative : Bool) (mantissa scale : Nat) : Option Decimal :=
  if hm : mantissa < mantissaBound then
    if hs : scale ≤ maxScale then
      some ⟨negative && mantissa != 0, mantissa, scale, hm, hs⟩
    else
      none
  else
    none

/-- The decimal of an integer, if its magnitude has at most 96 bits. -/
def ofInt? (n : Int) : Option Decimal :=
  ofParts? (n < 0) n.natAbs 0

/-- The mantissa with exactly `scale` digits after the point. -/
def text (d : Decimal) : String :=
  let digits := Text.padded (d.scale + 1) d.mantissa
  let whole := digits.take (digits.length - d.scale)
  let fraction := digits.drop (digits.length - d.scale)
  let magnitude := if d.scale == 0 then whole else whole ++ '.' :: fraction
  String.ofList (if d.negative then '-' :: magnitude else magnitude)

/-- The magnitude without its fraction digits. -/
def wholePart (d : Decimal) : Nat :=
  d.mantissa / Nat.pow 10 d.scale

/-- The number cut off at the point, with its sign. -/
def integerPart (d : Decimal) : Int :=
  if d.negative then -(d.wholePart : Int) else d.wholePart

/-- Whether the digits after the point are all zero. -/
def isWhole (d : Decimal) : Bool :=
  d.mantissa % Nat.pow 10 d.scale == 0

/-- Numeric equality, which ignores the scale and the sign of zero. -/
def sameNumber (a b : Decimal) : Bool :=
  a.mantissa * Nat.pow 10 b.scale == b.mantissa * Nat.pow 10 a.scale &&
    (a.negative == b.negative || a.mantissa == 0)

/-- Dropping final digits of the mantissa keeps it in range. -/
theorem div_lt_mantissaBound {m : Nat} (h : m < mantissaBound) (k : Nat) :
    m / k < mantissaBound :=
  Nat.lt_of_le_of_lt (Nat.div_le_self m k) h

/-- Drop the digits after the first `scale` digits of the fraction.  A number
that has no more digits than that stays as it is. -/
def truncateTo (d : Decimal) (scale : Nat) : Decimal :=
  if h : d.scale ≤ scale then
    d
  else if d.mantissa == 0 then
    ⟨d.negative, 0, scale, by decide, Nat.le_trans (Nat.le_of_not_le h) d.scale_le⟩
  else
    let kept := d.mantissa / Nat.pow 10 (d.scale - scale)
    ⟨d.negative && kept != 0, kept, scale, div_lt_mantissaBound d.mantissa_lt _,
      Nat.le_trans (Nat.le_of_not_le h) d.scale_le⟩

/-- Append up to `count` zeros to a fraction, as long as the mantissa stays in
range. -/
def appendZeros (d : Decimal) : Nat → Decimal
  | 0 => d
  | count + 1 =>
      if h : d.mantissa * 10 < mantissaBound ∧ d.scale + 1 ≤ maxScale then
        appendZeros ⟨d.negative, d.mantissa * 10, d.scale + 1, h.1, h.2⟩ count
      else
        d

/-- Give a number more fraction digits, up to `scale` of them or as many as the
mantissa can hold. -/
def growScale (d : Decimal) (scale : Nat) : Decimal :=
  d.appendZeros (scale - d.scale)

/-- Drop fraction digits beyond `scale`, rounding half up on the first dropped
digit.  The sign stays, also on a result of zero. -/
def roundTo (d : Decimal) (scale : Nat) (fits : scale ≤ maxScale) : Decimal :=
  if h : d.scale ≤ scale then
    d
  else
    let kept := d.mantissa / Nat.pow 10 (d.scale - scale)
    let dropped := d.mantissa / Nat.pow 10 (d.scale - scale - 1) % 10
    if 5 ≤ dropped then
      have up : kept + 1 < mantissaBound := by
        have positive : 0 < d.scale - scale := Nat.sub_pos_of_lt (Nat.lt_of_not_le h)
        have ten : 10 ≤ Nat.pow 10 (d.scale - scale) := by
          calc 10 = Nat.pow 10 1 := rfl
            _ ≤ Nat.pow 10 (d.scale - scale) := Nat.pow_le_pow_right (by decide) positive
        have bound : kept ≤ d.mantissa / 10 := Nat.div_le_div_left ten (by decide)
        have small := d.mantissa_lt
        have : mantissaBound = 79228162514264337593543950336 := rfl
        omega
      ⟨d.negative, kept + 1, scale, up, fits⟩
    else
      ⟨d.negative, kept, scale, div_lt_mantissaBound d.mantissa_lt _, fits⟩

/-- Move the point: the same mantissa under another scale. -/
def withScale? (d : Decimal) (scale : Nat) : Option Decimal :=
  if h : scale ≤ maxScale then some { d with scale := scale, scale_le := h } else none

end Decimal

end ColumnarSql
