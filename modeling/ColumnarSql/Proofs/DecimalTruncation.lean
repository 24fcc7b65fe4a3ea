/-
Module: ColumnarSql.Proofs.DecimalTruncation
Purpose: Decimal columns cut numbers off and never round them: which numbers
  they take, and which number and how many fraction digits they keep.
Main exports:
  truncatedTo, Decimal.toRat_truncateTo, Decimal.wholePart_truncateTo,
  Decimal.toRat_storedAt, Decimal.scale_storedAt, Value.exactNumber?,
  ColumnType.coerce_decimal_truncates
-/
import ColumnarSql.Proofs.CoercionSteps
import ColumnarSql.Proofs.DecimalScaling

namespace ColumnarSql

/-! ### Cutting a number off -/

/-- A number cut off, toward zero, behind its first `scale` fraction digits. -/
def truncatedTo (scale : Nat) (number : ℚ) : ℚ :=
  (if 0 ≤ number then ⌊number * 10 ^ scale⌋ else ⌈number * 10 ^ scale⌉) / 10 ^ scale

/-- Without a sign, cutting off rounds down. -/
theorem truncatedTo_of_nonneg {scale : Nat} {number : ℚ} (nonneg : 0 ≤ number) :
    truncatedTo scale number = ⌊number * 10 ^ scale⌋₊ / 10 ^ scale := by
  have scaled : 0 ≤ number * 10 ^ scale := by positivity
  rw [truncatedTo, if_pos nonneg, ← Int.natCast_floor_eq_floor scaled]
  simp

/-- Cutting off toward zero commutes with the sign. -/
theorem truncatedTo_neg (scale : Nat) (number : ℚ) :
    truncatedTo scale (-number) = -truncatedTo scale number := by
  rcases lt_trichotomy number 0 with negative | rfl | positive
  · have reflected : 0 ≤ -number := by linarith
    rw [truncatedTo, truncatedTo, if_pos reflected, if_neg (not_le.mpr negative), neg_mul,
      Int.floor_neg]
    push_cast
    ring
  · simp [truncatedTo]
  · have reflected : ¬ 0 ≤ -number := by linarith
    rw [truncatedTo, truncatedTo, if_neg reflected, if_pos positive.le, neg_mul, Int.ceil_neg]
    push_cast
    ring

/-- A number without digits to cut off stays as it is. -/
theorem truncatedTo_of_integral {scale : Nat} {number : ℚ} {k : ℤ}
    (integral : number * 10 ^ scale = k) : truncatedTo scale number = number := by
  have power : (10 : ℚ) ^ scale ≠ 0 := by positivity
  have whole : truncatedTo scale number = k / 10 ^ scale := by
    rw [truncatedTo, integral, Int.floor_intCast, Int.ceil_intCast, ite_self]
  rw [whole, ← integral, mul_div_cancel_right₀ _ power]

namespace Decimal

/-- The number without its sign. -/
def magnitude (d : Decimal) : ℚ :=
  d.mantissa / 10 ^ d.scale

/-- A decimal is its magnitude with its sign. -/
theorem toRat_of_sign (d : Decimal) :
    d.toRat = if d.negative then -d.magnitude else d.magnitude := by
  rw [toRat, magnitude]
  split <;> ring

/-- Cutting off a decimal rounds its magnitude down and keeps its sign. -/
theorem truncatedTo_toRat (d : Decimal) (scale : Nat) :
    truncatedTo scale d.toRat =
      if d.negative then -(⌊d.magnitude * 10 ^ scale⌋₊ / 10 ^ scale : ℚ)
      else ⌊d.magnitude * 10 ^ scale⌋₊ / 10 ^ scale := by
  have nonneg : 0 ≤ d.magnitude := by
    rw [magnitude]
    positivity
  rw [toRat_of_sign]
  split
  · rw [truncatedTo_neg, truncatedTo_of_nonneg nonneg]
  · rw [truncatedTo_of_nonneg nonneg]

/-- Dropping final digits of the mantissa cuts the number off. -/
theorem floor_magnitude_mul_pow {d : Decimal} {scale : Nat} (short : scale ≤ d.scale) :
    ⌊d.magnitude * 10 ^ scale⌋₊ = d.mantissa / 10 ^ (d.scale - scale) := by
  have shifted : d.magnitude * 10 ^ scale = d.mantissa / (10 ^ (d.scale - scale) : ℕ) := by
    rw [magnitude]
    push_cast
    rw [← Nat.sub_add_cancel short, pow_add, Nat.add_sub_cancel]
    field_simp
  rw [shifted, Nat.floor_div_eq_div]

/-- Cutting off fraction digits cuts off the number. -/
theorem toRat_truncateTo (d : Decimal) (scale : Nat) :
    (d.truncateTo scale).toRat = truncatedTo scale d.toRat := by
  by_cases short : d.scale ≤ scale
  · obtain ⟨k, integral⟩ := toRat_mul_pow_eq_intCast short
    rw [truncateTo_of_scale_le short, truncatedTo_of_integral integral]
  · rw [truncatedTo_toRat, floor_magnitude_mul_pow (Nat.le_of_not_le short), truncateTo,
      dif_neg short]
    split
    · rename_i zero
      have noDigits : d.mantissa = 0 := beq_iff_eq.mp zero
      simp [toRat, noDigits]
    · -- A number that is cut off to zero loses its sign.
      simp only [toRat, Nat.pow_eq]
      by_cases nothing : d.mantissa / 10 ^ (d.scale - scale) = 0
      · simp [nothing]
      · have kept : (d.mantissa / 10 ^ (d.scale - scale) != 0) = true := bne_iff_ne.mpr nothing
        simp only [kept, Bool.and_true]
        split <;> ring

/-- Cutting off fraction digits keeps the digits before the point. -/
theorem wholePart_truncateTo (d : Decimal) (scale : Nat) :
    (d.truncateTo scale).wholePart = d.wholePart := by
  rw [truncateTo]
  split
  · rfl
  · rename_i long
    split
    · rename_i zero
      have noDigits : d.mantissa = 0 := beq_iff_eq.mp zero
      simp [wholePart, noDigits]
    · simp only [wholePart, Nat.pow_eq]
      rw [Nat.div_div_eq_div_mul, ← pow_add, Nat.sub_add_cancel (Nat.le_of_not_le long)]

/-! ### What a column keeps -/

/-- A column keeps the number, cut off at its scale. -/
theorem toRat_storedAt (d : Decimal) (scale : Nat) :
    (d.storedAt scale).toRat = truncatedTo scale d.toRat := by
  rw [storedAt]
  split
  · rw [growScale, toRat_appendZeros, toRat_truncateTo]
  · rw [toRat_truncateTo]

/-- A number with at most 28 digits, before the point and behind it, has room
for all of them. -/
theorem scale_growScale {d : Decimal} {precision scale : Nat} (short : d.scale ≤ scale)
    (within : scale ≤ precision) (bounded : precision ≤ maxScale)
    (fits : d.wholePart < 10 ^ (precision - scale)) : (d.growScale scale).scale = scale := by
  rcases appendZeros_stops (scale - d.scale) d with complete | full
  · rw [growScale, complete]
    omega
  · by_contra different
    have below : (d.growScale scale).scale < scale :=
      lt_of_le_of_ne (scale_growScale_le short) different
    -- The whole part bounds the mantissa, so there was room for one more zero.
    have places : (d.growScale scale).scale + 1 ≤ maxScale := by omega
    have bound : (d.growScale scale).mantissa <
        10 ^ (precision - scale) * 10 ^ (d.growScale scale).scale := by
      rw [← Nat.div_lt_iff_lt_mul (by positivity)]
      rw [← wholePart_growScale d scale] at fits
      exact fits
    have room : (d.growScale scale).mantissa * 10 < mantissaBound := by
      calc (d.growScale scale).mantissa * 10
          < 10 ^ (precision - scale) * 10 ^ (d.growScale scale).scale * 10 := by omega
        _ = 10 ^ (precision - scale + (d.growScale scale).scale + 1) := by ring
        _ ≤ 10 ^ maxScale := Nat.pow_le_pow_right (by decide) (by omega)
        _ < mantissaBound := by decide
    exact full ⟨room, places⟩

/-- A decimal that fits its column is stored with exactly the column's fraction
digits. -/
theorem scale_storedAt {d : Decimal} {precision scale : Nat} (within : scale ≤ precision)
    (bounded : precision ≤ maxScale) (fits : d.wholePart < 10 ^ (precision - scale)) :
    (d.storedAt scale).scale = scale := by
  rw [storedAt, if_pos (within.trans bounded)]
  apply scale_growScale (d.scale_truncateTo_le scale) within bounded
  rwa [wholePart_truncateTo]

/-- Integers of at most 96 bits are decimals without fraction digits. -/
theorem exists_ofInt? {n : ℤ} (small : n.natAbs < mantissaBound) :
    ∃ d, ofInt? n = some d ∧ d.toRat = n := by
  refine ⟨_, by rw [ofInt?, ofParts?, dif_pos small, dif_pos (Nat.zero_le _)], ?_⟩
  simp only [toRat, pow_zero, div_one]
  rcases lt_or_ge n 0 with negative | nonneg
  · have sign : (decide (n < 0) && n.natAbs != 0) = true := by
      simp [negative, negative.ne]
    rw [sign, if_pos rfl, Nat.cast_natAbs, abs_of_neg negative]
    push_cast
    ring
  · have sign : (decide (n < 0) && n.natAbs != 0) = false := by
      simp [nonneg]
    rw [sign, if_neg Bool.false_ne_true, Nat.cast_natAbs, abs_of_nonneg nonneg, one_mul]

end Decimal

/-! ### Coercion of numbers -/

/-- The number that an integer or a decimal is. -/
def Value.exactNumber? : Value → Option ℚ
  | .int n => some n.toInt
  | .uint n => some n.toNat
  | .decimal d => some d.toRat
  | _ => none

namespace Coercion

/-- Integers and decimals convert to a decimal of the same number. -/
theorem exists_decimalOf? {value : Value} {number : ℚ} (exact : value.exactNumber? = some number) :
    ∃ d, decimalOf? value = some d ∧ d.toRat = number := by
  have bound : Decimal.mantissaBound = 79228162514264337593543950336 := rfl
  cases value with
  | decimal d =>
      cases exact
      exact ⟨d, rfl, rfl⟩
  | int n =>
      cases exact
      apply Decimal.exists_ofInt?
      have lower := n.le_toInt
      have upper := n.toInt_lt
      omega
  | uint n =>
      cases exact
      obtain ⟨d, converted, same⟩ := Decimal.exists_ofInt? (n := (n.toNat : ℤ)) (by
        have upper := n.toNat_lt
        omega)
      exact ⟨d, converted, by simpa using same⟩
  | _ => cases exact

end Coercion

namespace ColumnType

open Coercion

/-- A decimal column stores a number exactly if the digits before its point
fit. -/
theorem coerce_decimal_iff {precision scale : UInt32} {value stored : Value} {d : Decimal}
    (isDecimal : decimalOf? value = some d) :
    (scalar (.decimal precision scale)).coerce value = .ok stored ↔
      d.wholePart < 10 ^ (precision.toNat - scale.toNat) ∧
        stored = .decimal (d.storedAt scale.toNat) := by
  have notNull : value ≠ .null := by
    rintro rfl
    cases isDecimal
  rw [coerce_scalar_iff, toScalar, toDecimal_iff]
  simp [isDecimal, notNull, Decimal.wholePart_truncateTo]

/-- A decimal column takes an integer or a decimal exactly if the digits before
its point fit.  It keeps the number, cut off at the scale of the column and
never rounded, and with precisions up to 28 it keeps all fraction digits of the
column. -/
theorem coerce_decimal_truncates (precision scale : UInt32) {value : Value} {number : ℚ}
    (exact : value.exactNumber? = some number) :
    ((∃ stored, (scalar (.decimal precision scale)).coerce value = .ok stored) ↔
        ⌊|number|⌋₊ < 10 ^ (precision.toNat - scale.toNat)) ∧
      ∀ stored, (scalar (.decimal precision scale)).coerce value = .ok stored →
        ∃ d, stored = .decimal d ∧ d.toRat = truncatedTo scale.toNat number ∧
          (scale.toNat ≤ precision.toNat → precision.toNat ≤ 28 → d.scale = scale.toNat) := by
  obtain ⟨d, isDecimal, rfl⟩ := exists_decimalOf? exact
  simp only [coerce_decimal_iff isDecimal, Decimal.floor_abs_toRat]
  refine ⟨?_, ?_⟩
  · simp
  · rintro stored ⟨fits, rfl⟩
    refine ⟨_, rfl, d.toRat_storedAt _, ?_⟩
    intro within bounded
    exact Decimal.scale_storedAt within bounded fits

/-- The decimal `-999.99999`. -/
def almostThousand : Decimal :=
  ⟨true, 99999999, 5, by decide, by decide⟩

/-- The decimal `-999.99999` is cut off to `-999.99`; rounded, it would have a
digit too many. -/
theorem coerce_decimal_truncates_almostThousand :
    ∃ d, (scalar (.decimal 5 2)).coerce (.decimal almostThousand) = .ok (.decimal d) ∧
      d.toRat = -999.99 ∧ d.scale = 2 := by
  have law := @coerce_decimal_truncates 5 2 (.decimal almostThousand) _ rfl
  obtain ⟨stored, taken⟩ := law.1.mpr (by rw [Decimal.floor_abs_toRat]; decide)
  obtain ⟨d, rfl, number, places⟩ := law.2 stored taken
  refine ⟨d, taken, number.trans ?_, places (by decide) (by decide)⟩
  decide +kernel

end ColumnType

end ColumnarSql
