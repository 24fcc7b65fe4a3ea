/-
Module: ColumnarSql.Proofs.DecimalScaling
Purpose: The number that a decimal denotes, and what cutting off and appending
  fraction digits do to it.
Main exports:
  Decimal.toRat, Decimal.floor_abs_toRat, Decimal.wholePart_growScale,
  Decimal.scale_truncateTo_le, Decimal.growScale_growScale
-/
import ColumnarSql.Decimal.Basic
import Mathlib.Algebra.Order.Field.Rat
import Mathlib.Algebra.Order.Floor.Semifield
import Mathlib.Data.Rat.Floor
import Mathlib.Tactic.FieldSimp
import Mathlib.Tactic.Ring

namespace ColumnarSql.Decimal

/-! ### The number of a decimal -/

/-- The number that a decimal denotes. -/
def toRat (d : Decimal) : ℚ :=
  (if d.negative then -1 else 1) * (d.mantissa / 10 ^ d.scale)

/-- The magnitude of a decimal is its mantissa, scaled. -/
theorem abs_toRat (d : Decimal) : |d.toRat| = d.mantissa / 10 ^ d.scale := by
  have magnitude : (0 : ℚ) ≤ d.mantissa / 10 ^ d.scale := by positivity
  rw [toRat, abs_mul, abs_of_nonneg magnitude]
  split <;> simp

/-- The digits before the point are the whole part of the number. -/
theorem floor_abs_toRat (d : Decimal) : ⌊|d.toRat|⌋₊ = d.wholePart := by
  rw [abs_toRat, wholePart]
  have quotient := Nat.floor_div_eq_div (K := ℚ) d.mantissa (10 ^ d.scale)
  rwa [Nat.cast_pow, Nat.cast_ofNat] at quotient

/-- A decimal with at most `scale` fraction digits is a multiple of the last of
them. -/
theorem toRat_mul_pow_eq_intCast {d : Decimal} {scale : Nat} (short : d.scale ≤ scale) :
    ∃ k : ℤ, d.toRat * 10 ^ scale = k := by
  obtain ⟨more, rfl⟩ := Nat.exists_eq_add_of_le short
  refine ⟨(if d.negative then -1 else 1) * (d.mantissa * 10 ^ more), ?_⟩
  rw [toRat, pow_add]
  push_cast
  split <;> field_simp

/-! ### Appending zeros -/

/-- The decimal with one more zero at its end. -/
theorem toRat_of_tenfold {d e : Decimal} (sign : e.negative = d.negative)
    (mantissa : e.mantissa = d.mantissa * 10) (scale : e.scale = d.scale + 1) :
    e.toRat = d.toRat := by
  rw [toRat, toRat, sign, mantissa, scale, pow_succ]
  push_cast
  rw [mul_div_mul_right _ _ (by norm_num : (10 : ℚ) ≠ 0)]

/-- Zeros at the end of a fraction leave the number as it is. -/
theorem toRat_appendZeros (count : Nat) : ∀ d : Decimal, (d.appendZeros count).toRat = d.toRat := by
  induction count with
  | zero => exact fun d => rfl
  | succ count inductionHypothesis =>
      intro d
      rw [appendZeros]
      split
      · rw [inductionHypothesis]
        exact toRat_of_tenfold rfl rfl rfl
      · rfl

/-- Zeros at the end of a fraction leave the digits before the point. -/
theorem wholePart_appendZeros (count : Nat) (d : Decimal) :
    (d.appendZeros count).wholePart = d.wholePart := by
  rw [← floor_abs_toRat, ← floor_abs_toRat, toRat_appendZeros]

/-- There are at most as many new fraction digits as zeros were asked for. -/
theorem scale_appendZeros_le (count : Nat) :
    ∀ d : Decimal, (d.appendZeros count).scale ≤ d.scale + count := by
  induction count with
  | zero => exact fun d => Nat.le_refl _
  | succ count inductionHypothesis =>
      intro d
      rw [appendZeros]
      split
      · refine Nat.le_trans (inductionHypothesis _) ?_
        simp only
        omega
      · omega

/-- Nothing can be appended to a decimal that has no room. -/
theorem appendZeros_of_full {d : Decimal}
    (full : ¬ (d.mantissa * 10 < mantissaBound ∧ d.scale + 1 ≤ maxScale)) (count : Nat) :
    d.appendZeros count = d := by
  cases count with
  | zero => rfl
  | succ count => rw [appendZeros, dif_neg full]

/-- Zeros are appended until all are there or there is no more room. -/
theorem appendZeros_stops (count : Nat) : ∀ d : Decimal,
    (d.appendZeros count).scale = d.scale + count ∨
      ¬ ((d.appendZeros count).mantissa * 10 < mantissaBound ∧
        (d.appendZeros count).scale + 1 ≤ maxScale) := by
  induction count with
  | zero => exact fun d => .inl rfl
  | succ count inductionHypothesis =>
      intro d
      rw [appendZeros]
      split
      · rename_i room
        rcases inductionHypothesis ⟨d.negative, d.mantissa * 10, d.scale + 1, room.1, room.2⟩ with
          complete | full
        · left
          rw [complete]
          simp only
          omega
        · exact .inr full
      · rename_i full
        exact .inr full

/-! ### A given scale -/

theorem wholePart_growScale (d : Decimal) (scale : Nat) :
    (d.growScale scale).wholePart = d.wholePart :=
  wholePart_appendZeros _ d

/-- A fraction does not grow beyond the scale that was asked for. -/
theorem scale_growScale_le {d : Decimal} {scale : Nat} (short : d.scale ≤ scale) :
    (d.growScale scale).scale ≤ scale := by
  have bound := scale_appendZeros_le (scale - d.scale) d
  rw [growScale]
  omega

/-- A decimal that has grown as far as it can does not grow again. -/
theorem growScale_growScale {d : Decimal} {scale : Nat} (short : d.scale ≤ scale) :
    (d.growScale scale).growScale scale = d.growScale scale := by
  rcases appendZeros_stops (scale - d.scale) d with complete | full
  · have done : scale - (d.growScale scale).scale = 0 := by
      rw [growScale, complete]
      omega
    nth_rewrite 1 [growScale]
    rw [done]
    rfl
  · exact appendZeros_of_full full _

/-- Cutting off leaves no fraction digit beyond the scale. -/
theorem scale_truncateTo_le (d : Decimal) (scale : Nat) : (d.truncateTo scale).scale ≤ scale := by
  rw [truncateTo]
  split
  · assumption
  · split <;> exact Nat.le_refl _

/-- Cutting off keeps a decimal that has no digits to cut off. -/
theorem truncateTo_of_scale_le {d : Decimal} {scale : Nat} (short : d.scale ≤ scale) :
    d.truncateTo scale = d := by
  rw [truncateTo, dif_pos short]

end ColumnarSql.Decimal
