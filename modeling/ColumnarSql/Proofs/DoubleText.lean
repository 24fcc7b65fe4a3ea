/-
Module: ColumnarSql.Proofs.DoubleText
Purpose: The shortest decimal of a magnitude reads back as the magnitude.
Main exports:
  Double.nearestRank_unitsOf, Double.ofScaled_mul_pow, Double.readsAs_shortest,
  Double.ofScaled_shortest
-/
import ColumnarSql.Double.Shortest
import ColumnarSql.Proofs.DigitStrings
import Mathlib.Tactic.Ring

namespace ColumnarSql.Double

open Text

theorem unitsPerOne_pos : 0 < unitsPerOne := by
  unfold unitsPerOne
  -- The exponent is hidden, so that the power is not computed.
  generalize 1074 = shift
  exact Nat.two_pow_pos shift

/-! ### Rounding of fractions -/

/-- Only the quotient of a fraction counts. -/
theorem nearestRank_mul_mul {factor : Nat} (positive : 0 < factor) (numerator denominator : Nat) :
    nearestRank (numerator * factor) (denominator * factor) =
      nearestRank numerator denominator := by
  have scaled : numerator * factor * unitsPerOne = numerator * unitsPerOne * factor := by ring
  simp only [nearestRank, scaled, Nat.mul_div_mul_right _ _ positive, Nat.mul_mod_mul_right]
  generalize numerator * unitsPerOne / denominator = whole
  generalize whole.log2 - 52 = shift
  generalize numerator * unitsPerOne % denominator = left
  have remainder : whole % Nat.pow 2 shift * (denominator * factor) + left * factor =
      (whole % Nat.pow 2 shift * denominator + left) * factor := by ring
  have unit : Nat.pow 2 shift * (denominator * factor) =
      Nat.pow 2 shift * denominator * factor := by ring
  have sameTie (a b : Nat) : (a * factor == b * factor) = (a == b) := by
    rw [Bool.eq_iff_iff, beq_iff_eq, beq_iff_eq]
    exact Nat.mul_left_inj (Nat.ne_of_gt positive)
  rw [remainder, unit, ← Nat.mul_assoc 2]
  simp only [Nat.mul_lt_mul_right positive, sameTie]

/-- Shifting a number that is not zero raises its logarithm by the shift. -/
theorem log2_mul_pow {mantissa : Nat} (nonzero : mantissa ≠ 0) (shift : Nat) :
    (mantissa * 2 ^ shift).log2 = mantissa.log2 + shift := by
  obtain ⟨above, below⟩ := (Nat.log2_eq_iff nonzero).mp rfl
  rw [Nat.log2_eq_iff (Nat.mul_ne_zero nonzero (Nat.ne_of_gt (Nat.two_pow_pos shift)))]
  constructor
  · rw [Nat.pow_add]
    exact Nat.mul_le_mul_right _ above
  · rw [Nat.add_right_comm, Nat.pow_add]
    exact Nat.mul_lt_mul_of_pos_right below (Nat.two_pow_pos shift)

/-- Units that have at most 53 bits, or end in as many zero bits as they have
more, are not rounded. -/
theorem nearestRank_of_exact {units mantissa shift : Nat}
    (shifted : units.log2 - 52 = shift) (split : units = mantissa * 2 ^ shift)
    (bounded : shift * Nat.pow 2 52 + mantissa ≤ infinityRank) :
    nearestRank units unitsPerOne = shift * Nat.pow 2 52 + mantissa := by
  have quotient : units / Nat.pow 2 shift = mantissa := by
    rw [split, Nat.pow_eq, Nat.mul_div_cancel _ (Nat.two_pow_pos shift)]
  have remainder : units % Nat.pow 2 shift = 0 := by
    rw [split, Nat.pow_eq, Nat.mul_mod_left]
  have unit : 0 < Nat.pow 2 shift * unitsPerOne :=
    Nat.mul_pos (Nat.two_pow_pos shift) unitsPerOne_pos
  have noTie : (2 * 0 == Nat.pow 2 shift * unitsPerOne) = false := by
    rw [beq_eq_false_iff_ne]
    omega
  simp only [nearestRank, Nat.mul_div_cancel _ unitsPerOne_pos, shifted, quotient, remainder,
    Nat.mul_mod_left, Nat.zero_mul, noTie]
  simp [bounded]

/-- A magnitude of the format is its own nearest one. -/
theorem nearestRank_unitsOf {rank : Nat} (finite : rank < infinityRank) :
    nearestRank (unitsOf rank) unitsPerOne = rank := by
  have split : Nat.pow 2 52 = 4503599627370496 := rfl
  by_cases subnormal : rank < Nat.pow 2 52
  · have noShift : shiftOf rank = 0 := by
      rw [shiftOf, Nat.div_eq_of_lt subnormal]
    have units : unitsOf rank = rank := by
      rw [unitsOf, mantissaOf, if_pos subnormal, noShift]
      exact Nat.mul_one rank
    have short : rank.log2 - 52 = 0 := by
      by_cases zero : rank = 0
      · simp [zero]
      · have := (Nat.log2_lt zero).mpr (subnormal : rank < 2 ^ 52)
        omega
    rw [units, nearestRank_of_exact short (Nat.mul_one rank).symm (by omega)]
    omega
  · have mantissa : mantissaOf rank = rank % Nat.pow 2 52 + Nat.pow 2 52 := if_neg subnormal
    have nonzero : mantissaOf rank ≠ 0 := by omega
    have bits : (mantissaOf rank).log2 = 52 := by
      rw [Nat.log2_eq_iff nonzero]
      have := Nat.mod_lt rank (show 0 < Nat.pow 2 52 by decide)
      omega
    have shifted : (unitsOf rank).log2 - 52 = shiftOf rank := by
      rw [unitsOf, Nat.pow_eq, log2_mul_pow nonzero, bits, Nat.add_sub_cancel_left]
    have shift : 1 ≤ rank / Nat.pow 2 52 := Nat.div_pos (Nat.le_of_not_lt subnormal) (by decide)
    have whole : shiftOf rank * Nat.pow 2 52 + mantissaOf rank = rank := by
      calc shiftOf rank * Nat.pow 2 52 + mantissaOf rank
          = (rank / Nat.pow 2 52 - 1 + 1) * Nat.pow 2 52 + rank % Nat.pow 2 52 := by
            rw [shiftOf, mantissa]
            ring
        _ = rank := by rw [Nat.sub_add_cancel shift, Nat.div_add_mod']
    rw [nearestRank_of_exact shifted rfl (by omega), whole]

/-! ### Decimals with another exponent -/

/-- Each zero at the end is one digit more. -/
theorem digitCount_mul_pow {n : Nat} (positive : 0 < n) (count : Nat) :
    digitCount (n * 10 ^ count) = digitCount n + count := by
  have written : digitsOf (n * 10 ^ count) = digitsOf n ++ List.replicate count '0' :=
    digitsOf_mul_pow positive count
  rw [digitCount, ← digitsOf, written, List.length_append, List.length_replicate]
  rfl

/-- A fraction may be expanded before it is rounded. -/
theorem ofFraction_mul_mul {factor : Nat} (positive : 0 < factor) (negative : Bool)
    (numerator denominator : Nat) :
    ofFraction negative (numerator * factor) (denominator * factor) =
      ofFraction negative numerator denominator := by
  simp only [ofFraction, nearestRank_mul_mul positive]

/-- A decimal is read alike however many zeros end its digits. -/
theorem ofScaled_mul_pow (negative : Bool) (digits count : Nat) (exponent : Int) :
    ofScaled negative (digits * 10 ^ count) (exponent - count) =
      ofScaled negative digits exponent := by
  rcases Nat.eq_zero_or_pos digits with rfl | positive
  · simp [ofScaled]
  · have power (n : Nat) : 0 < 10 ^ n := Nat.pow_pos (by decide)
    have larger : 0 < digits * 10 ^ count := Nat.mul_pos positive (power count)
    have point : (digitCount (digits * 10 ^ count) : Int) + (exponent - count) =
        digitCount digits + exponent := by
      rw [digitCount_mul_pow positive]
      omega
    have fraction : (if 0 ≤ exponent - count then
          ofFraction negative (digits * 10 ^ count * Nat.pow 10 (exponent - count).toNat) 1
        else ofFraction negative (digits * 10 ^ count) (Nat.pow 10 (-(exponent - count)).toNat)) =
        if 0 ≤ exponent then ofFraction negative (digits * Nat.pow 10 exponent.toNat) 1
        else ofFraction negative digits (Nat.pow 10 (-exponent).toNat) := by
      simp only [Nat.pow_eq]
      by_cases whole : 0 ≤ exponent
      · by_cases still : 0 ≤ exponent - count
        · rw [if_pos whole, if_pos still, Nat.mul_assoc, ← Nat.pow_add]
          congr 3
          omega
        · have split : count = exponent.toNat + (-(exponent - count)).toNat := by omega
          rw [if_pos whole, if_neg still]
          nth_rewrite 1 [split]
          rw [Nat.pow_add, ← Nat.mul_assoc]
          nth_rewrite 2 [← Nat.one_mul (10 ^ (-(exponent - count)).toNat)]
          exact ofFraction_mul_mul (power _) ..
      · have split : (-(exponent - count)).toNat = (-exponent).toNat + count := by omega
        rw [if_neg whole, if_neg (by omega), split, Nat.pow_add]
        exact ofFraction_mul_mul (power _) ..
    have nonzero : (digits == 0) = false := by simp [Nat.ne_of_gt positive]
    have nonzero' : (digits * 10 ^ count == 0) = false := by simp [Nat.ne_of_gt larger]
    simp only [ofScaled, nonzero, nonzero', point, fraction]

/-! ### The search for the shortest decimal -/

/-- The sign of a decimal is that of the number it is read as. -/
theorem ofScaled_eq_number (digits : Nat) (exponent : Int) :
    ∃ rank, ∀ negative, ofScaled negative digits exponent = .number negative rank := by
  simp only [ofScaled]
  split
  · exact ⟨_, fun _ => rfl⟩
  · split
    · exact ⟨_, fun _ => rfl⟩
    · split
      · exact ⟨_, fun _ => rfl⟩
      · split
        · exact ⟨_, fun _ => rfl⟩
        · exact ⟨_, fun _ => rfl⟩

/-- A decimal reads as a rank if it gives the number of that rank, with either
sign. -/
theorem readsAs_iff {rank : Nat} {decimal : Digits} :
    readsAs rank decimal = true ↔
      ∃ bounded, ∀ negative, ofScaled negative decimal.digits decimal.exponent =
        .number negative ⟨rank, bounded⟩ := by
  obtain ⟨found, read⟩ := ofScaled_eq_number decimal.digits decimal.exponent
  simp only [readsAs, read, beq_iff_eq, number.injEq, true_and, forall_const]
  constructor
  · rintro rfl
    exact ⟨found.isLt, rfl⟩
  · rintro ⟨bounded, rfl⟩
    rfl

/-- A final zero may be dropped without changing what is read. -/
theorem readsAs_dropFinalZero {rank : Nat} {decimal : Digits} :
    readsAs rank decimal.dropFinalZero = readsAs rank decimal := by
  rw [Digits.dropFinalZero]
  split
  · rename_i zero
    have tens : decimal.digits = decimal.digits / 10 * 10 ^ 1 := by
      have := beq_iff_eq.mp zero
      omega
    have exponent : decimal.exponent = decimal.exponent + 1 - (1 : Nat) := by omega
    simp only [readsAs]
    rw [← ofScaled_mul_pow false _ 1 (decimal.exponent + 1), ← tens, ← exponent]
  · rfl

/-- A neighbour on a decimal grid is only taken if it reads as the number. -/
theorem readsAs_neighbour? {ties : TieRule} {rank : Nat} {exponent : Int} {decimal : Digits}
    (found : neighbour? ties rank exponent = some decimal) : readsAs rank decimal = true := by
  simp only [neighbour?] at found
  split at found
  · rename_i below
    cases found
    exact (Bool.and_eq_true_iff.mp below).1
  · split at found
    · rename_i above
      cases found
      exact above
    · cases found

theorem unitsOf_pos {rank : Nat} (positive : 0 < rank) : 0 < unitsOf rank := by
  refine Nat.mul_pos ?_ (Nat.two_pow_pos _)
  rw [mantissaOf]
  split
  · exact positive
  · exact Nat.add_pos_right _ (by decide)

/-- The shift of a finite number has an upper bound. -/
theorem shiftOf_le {rank : Nat} (finite : rank < infinityRank) : shiftOf rank ≤ 2045 := by
  have bound : rank / Nat.pow 2 52 < 2047 := Nat.div_lt_of_lt_mul (by
    rw [Nat.mul_comm]
    exact finite)
  rw [shiftOf]
  omega

/-- A number has at most 53 bits before its shift. -/
theorem unitsOf_lt {rank shift : Nat} (bound : shiftOf rank ≤ shift) :
    unitsOf rank < Nat.pow 2 53 * Nat.pow 2 shift := by
  have mantissa : mantissaOf rank < Nat.pow 2 53 := by
    have half : Nat.pow 2 53 = Nat.pow 2 52 + Nat.pow 2 52 := rfl
    rw [mantissaOf]
    split
    · omega
    · have := Nat.mod_lt rank (show 0 < Nat.pow 2 52 by decide)
      omega
  calc mantissaOf rank * Nat.pow 2 (shiftOf rank)
      < Nat.pow 2 53 * Nat.pow 2 (shiftOf rank) :=
        Nat.mul_lt_mul_of_pos_right mantissa (Nat.two_pow_pos _)
    _ ≤ Nat.pow 2 53 * Nat.pow 2 shift :=
        Nat.mul_le_mul_left _ (Nat.pow_le_pow_right (by decide) bound)

/-! The exact expansion of a magnitude has a number of digits for which its
exponent does not decide the result. -/

/-- The exact expansion has no more digits than there is room for. -/
theorem digitCount_expansion_le {rank shift count width : Nat} (bound : shiftOf rank ≤ shift)
    (positive : 0 < width)
    (room : Nat.pow 2 53 * Nat.pow 2 shift * Nat.pow 5 count ≤ Nat.pow 10 width) :
    digitCount (unitsOf rank * Nat.pow 5 count) ≤ width := by
  apply (length_digitsOf_le_iff positive).mpr
  calc unitsOf rank * Nat.pow 5 count
      < Nat.pow 2 53 * Nat.pow 2 shift * Nat.pow 5 count :=
        Nat.mul_lt_mul_of_pos_right (unitsOf_lt bound) (Nat.pow_pos (by decide))
    _ ≤ Nat.pow 10 width := room

/-- The exact expansion has more digits than the width, since the powers of five
alone do. -/
theorem lt_digitCount_expansion {rank count width : Nat} (nonzero : 0 < rank)
    (positive : 0 < width) (room : Nat.pow 10 width ≤ Nat.pow 5 count) :
    width < digitCount (unitsOf rank * Nat.pow 5 count) := by
  rw [← Nat.not_le]
  intro short
  have small := (length_digitsOf_le_iff positive).mp short
  have large : Nat.pow 10 width ≤ unitsOf rank * Nat.pow 5 count :=
    room.trans (Nat.le_mul_of_pos_left _ (unitsOf_pos nonzero))
  exact Nat.not_lt.mpr large small

theorem expansion_ne_zero {rank : Nat} (nonzero : 0 < rank) (count : Nat) :
    (unitsOf rank * Nat.pow 5 count == 0) = false := by
  rw [beq_eq_false_iff_ne]
  exact Nat.ne_of_gt (Nat.mul_pos (unitsOf_pos nonzero) (Nat.pow_pos (by decide)))

/-- The units in a fraction over a power of two, written as a decimal. -/
theorem ofFraction_mul_pow_five (negative : Bool) (units count : Nat) :
    ofFraction negative (units * Nat.pow 5 count) (Nat.pow 10 count) =
      ofFraction negative units (Nat.pow 2 count) := by
  have tens : Nat.pow 10 count = Nat.pow 2 count * Nat.pow 5 count := Nat.mul_pow 2 5 count
  rw [tens]
  exact ofFraction_mul_mul (Nat.pow_pos (by decide)) ..

/-- The exact expansion of a magnitude reads back. -/
theorem readsAs_expansion {rank : Nat} (positive : 0 < rank) (finite : rank < infinityRank) :
    readsAs rank ⟨unitsOf rank * Nat.pow 5 1074, -1074⟩ = true := by
  -- The exponent is a variable, so that its powers are not computed.
  obtain ⟨count, least⟩ : ∃ count, 1074 = count := ⟨1074, rfl⟩
  have few : digitCount (unitsOf rank * Nat.pow 5 count) ≤ 1384 := by
    rw [← least]
    apply digitCount_expansion_le (shiftOf_le finite) (by decide)
    decide +kernel
  have many : 743 < digitCount (unitsOf rank * Nat.pow 5 count) := by
    rw [← least]
    apply lt_digitCount_expansion positive (by decide)
    decide +kernel
  have unit : unitsPerOne = Nat.pow 2 count := by
    unfold unitsPerOne
    rw [least]
  have exponent : (-1074 : Int) = -(1074 : Nat) := rfl
  have opposite : (- -(count : Int)).toNat = count := by omega
  rw [exponent, least, readsAs_iff]
  refine ⟨Nat.lt_succ_of_lt finite, fun negative => ?_⟩
  calc ofScaled negative (unitsOf rank * Nat.pow 5 count) (-(count : Int))
      = ofFraction negative (unitsOf rank * Nat.pow 5 count) (Nat.pow 10 count) := by
        rw [ofScaled, expansion_ne_zero positive, if_neg Bool.false_ne_true, if_neg (by omega),
          if_neg (by omega), if_neg (by omega), opposite]
    _ = ofFraction negative (unitsOf rank) unitsPerOne := by
        rw [unit, ofFraction_mul_pow_five]
    _ = .number negative ⟨rank, _⟩ := by simp only [ofFraction, nearestRank_unitsOf finite]

/-- Wherever the search stops, its answer reads as the number. -/
theorem readsAs_searchShortest {rank : Nat} (positive : 0 < rank) (finite : rank < infinityRank)
    (ties : TieRule) : ∀ (count : Nat) (exponent : Int),
      readsAs rank (searchShortest ties rank exponent count) = true
  | 0, _ => readsAs_expansion positive finite
  | count + 1, exponent => by
      rw [searchShortest]
      cases found : neighbour? ties rank exponent with
      | none => exact readsAs_searchShortest positive finite ties count (exponent - 1)
      | some decimal =>
          simp only [readsAs_dropFinalZero]
          exact readsAs_neighbour? found

/-- The shortest decimal of a finite magnitude reads back as the magnitude. -/
theorem readsAs_shortest {rank : Nat} (finite : rank < infinityRank) (ties : TieRule) :
    readsAs rank (shortest ties rank) = true := by
  rw [shortest]
  split
  · rename_i zero
    rw [beq_iff_eq] at zero
    subst zero
    rfl
  · rename_i nonzero
    have positive : 0 < rank := Nat.pos_of_ne_zero (by simpa using nonzero)
    exact readsAs_searchShortest positive finite ties 17 _

/-- The shortest decimal of a finite number is read back as that number, with
its sign. -/
theorem ofScaled_shortest {rank : Nat} (finite : rank < infinityRank) (ties : TieRule)
    (negative : Bool) :
    ofScaled negative (shortest ties rank).digits (shortest ties rank).exponent =
      .number negative ⟨rank, Nat.lt_succ_of_lt finite⟩ := by
  obtain ⟨_, read⟩ := readsAs_iff.mp (readsAs_shortest finite ties)
  exact read negative

/-- Only zero is written with the digit zero alone. -/
theorem shortest_digits_pos {rank : Nat} (finite : rank < infinityRank) (positive : 0 < rank)
    (ties : TieRule) : 0 < (shortest ties rank).digits := by
  rw [Nat.pos_iff_ne_zero]
  intro zero
  have read := ofScaled_shortest finite ties false
  rw [zero] at read
  injection read with _ same
  exact Nat.ne_of_gt positive (congrArg Fin.val same).symm

end ColumnarSql.Double
