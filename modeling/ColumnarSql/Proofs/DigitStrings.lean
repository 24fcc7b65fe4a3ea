/-
Module: ColumnarSql.Proofs.DigitStrings
Purpose: Digit strings and the numbers they write.
Main exports:
  isDigit_of_mem_digitsOf, digitsValue_append, digitsOf_digitsValue,
  length_digitsOf_le_iff, isDigit_of_mem_padded, length_padded,
  digitsValue_padded, toList_toString_int, readIntegerWithin?_toString
-/
import ColumnarSql.Text.Number
import Mathlib.Algebra.Order.Ring.Nat
import Mathlib.Data.List.Induction

namespace ColumnarSql.Text

/-! ### The digits of a number -/

/-- A number is written in digits. -/
theorem isDigit_of_mem_digitsOf {n : Nat} {c : Char} (member : c ∈ digitsOf n) :
    c.isDigit = true :=
  Nat.isDigit_of_mem_toDigits (by decide) (by decide) member

theorem digitsOf_ne_nil (n : Nat) : digitsOf n ≠ [] :=
  Nat.toDigits_ne_nil

/-- A digit string is not empty and has digits only. -/
theorem isDigits_iff {s : List Char} :
    isDigits s = true ↔ s ≠ [] ∧ ∀ c ∈ s, c.isDigit = true := by
  simp only [isDigits, Bool.and_eq_true, Bool.not_eq_true', List.isEmpty_eq_false_iff,
    List.all_eq_true]

theorem mem_of_isDigits {s : List Char} (digits : isDigits s = true) :
    ∀ c ∈ s, c.isDigit = true :=
  (isDigits_iff.mp digits).2

theorem ne_nil_of_isDigits {s : List Char} (digits : isDigits s = true) : s ≠ [] :=
  (isDigits_iff.mp digits).1

/-- What a number is written as is a digit string. -/
theorem isDigits_digitsOf (n : Nat) : isDigits (digitsOf n) = true :=
  isDigits_iff.mpr ⟨digitsOf_ne_nil n, fun _ member => isDigit_of_mem_digitsOf member⟩

/-- Converting a natural number to a string writes its digits. -/
theorem toList_toString_nat (n : Nat) : (toString n).toList = digitsOf n := by
  rw [Nat.toString_eq_repr, Nat.toList_repr, digitsOf]

/-- A negative number is a minus sign and the digits of its magnitude. -/
theorem toList_toString_negSucc (n : Nat) :
    (toString (Int.negSucc n)).toList = '-' :: digitsOf (n + 1) := by
  have text : toString (Int.negSucc n) = "-" ++ toString (n + 1) := rfl
  rw [text, String.toList_append, toList_toString_nat]
  rfl

/-- A number below a power of ten has at most as many digits as the power has
zeros. -/
theorem length_digitsOf_le_iff {n width : Nat} (positive : 0 < width) :
    (digitsOf n).length ≤ width ↔ n < 10 ^ width :=
  Nat.length_toDigits_le_iff (by decide) positive

/-! ### The number of a digit string -/

/-- A digit string is worth its parts, the front one moved to its place. -/
theorem digitsValue_append (s t : List Char) :
    digitsValue (s ++ t) = digitsValue s * 10 ^ t.length + digitsValue t := by
  rw [digitsValue, Nat.ofDigitChars_append, Nat.ofDigitChars_eq_ofDigitChars_zero, Nat.mul_comm]
  rfl

/-- Zeros in front do not count. -/
theorem digitsValue_zeros_append (count : Nat) (s : List Char) :
    digitsValue (List.replicate count '0' ++ s) = digitsValue s := by
  rw [digitsValue, Nat.ofDigitChars_append, Nat.ofDigitChars_replicate_zero, Nat.mul_zero]
  rfl

/-- Zeros behind a digit string multiply its number. -/
theorem digitsValue_append_zeros (s : List Char) (count : Nat) :
    digitsValue (s ++ List.replicate count '0') = digitsValue s * 10 ^ count := by
  rw [digitsValue, Nat.ofDigitChars_append, Nat.ofDigitChars_replicate_zero, Nat.mul_comm]
  rfl

theorem digitsValue_singleton (c : Char) : digitsValue [c] = c.toNat - '0'.toNat := by
  simp [digitsValue, Nat.ofDigitChars_cons]

/-- The first digit counts the highest power of ten. -/
theorem digitsValue_cons (c : Char) (s : List Char) :
    digitsValue (c :: s) = (c.toNat - '0'.toNat) * 10 ^ s.length + digitsValue s := by
  rw [← List.singleton_append, digitsValue_append, digitsValue_singleton]

/-- The codes of the digits lie between those of zero and nine. -/
theorem toNat_of_isDigit {c : Char} (digit : c.isDigit = true) : 48 ≤ c.toNat ∧ c.toNat ≤ 57 := by
  have bounds : c.isDigit = ('0'.val ≤ c.val && c.val ≤ '9'.val) := rfl
  simp only [bounds, Bool.and_eq_true, decide_eq_true_eq, UInt32.le_iff_toNat_le] at digit
  exact digit

theorem digitValue_lt {c : Char} (digit : c.isDigit = true) : c.toNat - '0'.toNat < 10 := by
  have bounds := toNat_of_isDigit digit
  have zero : '0'.toNat = 48 := rfl
  omega

/-- A digit string writes a number below the power of ten with as many zeros. -/
theorem digitsValue_lt {s : List Char} (digits : ∀ c ∈ s, c.isDigit = true) :
    digitsValue s < 10 ^ s.length := by
  induction s with
  | nil => exact Nat.one_pos
  | cons c rest inductionHypothesis =>
      have first := digitValue_lt (digits c (by simp))
      have later := inductionHypothesis fun d member => digits d (by simp [member])
      rw [digitsValue_cons, List.length_cons, Nat.pow_succ]
      have carried : (c.toNat - '0'.toNat) * 10 ^ rest.length ≤ 9 * 10 ^ rest.length :=
        Nat.mul_le_mul_right _ (by omega)
      omega

/-- A digit string whose first digit is not zero writes no zero. -/
theorem digitsValue_pos {c : Char} {s : List Char} (digit : c.isDigit = true) (nonzero : c ≠ '0') :
    0 < digitsValue (c :: s) := by
  have positive : 0 < c.toNat - '0'.toNat := by
    have bounds := toNat_of_isDigit digit
    have zero : '0'.toNat = 48 := rfl
    have different : c.toNat ≠ 48 := by
      intro same
      exact nonzero (Char.toNat_inj.mp same)
    omega
  rw [digitsValue_cons]
  exact Nat.add_pos_left (Nat.mul_pos positive (Nat.pow_pos (by decide))) _

/-- The number of a single digit is written as that digit. -/
theorem digitsOf_digit {c : Char} (digit : c.isDigit = true) :
    digitsOf (c.toNat - '0'.toNat) = [c] := by
  have bounds := toNat_of_isDigit digit
  have zero : '0'.toNat = 48 := rfl
  rw [digitsOf, Nat.toDigits_of_lt_base (digitValue_lt digit), List.singleton_inj]
  apply Char.toNat_inj.mp
  rw [Nat.toNat_digitChar_of_lt_ten (digitValue_lt digit)]
  omega

/-- A digit string is what its number is written as, unless a zero stands in
front of another digit. -/
theorem digitsOf_digitsValue {s : List Char} (nonempty : s ≠ [])
    (digits : ∀ c ∈ s, c.isDigit = true) (noZero : s.head? = some '0' → s.length = 1) :
    digitsOf (digitsValue s) = s := by
  -- The last digit is split off, since numbers are written by division.
  induction s using List.reverseRecOn with
  | nil => exact absurd rfl nonempty
  | append_singleton front c inductionHypothesis =>
      have digit := digits c (by simp)
      cases front with
      | nil => rw [List.nil_append, digitsValue_singleton, digitsOf_digit digit]
      | cons d rest =>
          have nonzero : d ≠ '0' := by
            rintro rfl
            simp at noZero
          have frontDigits : ∀ e ∈ d :: rest, e.isDigit = true := fun e member =>
            digits e (List.mem_append_left _ member)
          have written := inductionHypothesis (by simp) frontDigits fun zero =>
            absurd (Option.some.inj zero) nonzero
          have positive := digitsValue_pos (s := rest) (frontDigits d (by simp)) nonzero
          calc digitsOf (digitsValue (d :: rest ++ [c]))
              = digitsOf (10 * digitsValue (d :: rest) + (c.toNat - '0'.toNat)) := by
                rw [digitsValue_append, digitsValue_singleton, List.length_singleton, Nat.pow_one,
                  Nat.mul_comm]
            _ = digitsOf (digitsValue (d :: rest)) ++ digitsOf (c.toNat - '0'.toNat) :=
                (Nat.toDigits_append_toDigits (by decide) positive (digitValue_lt digit)).symm
            _ = d :: rest ++ [c] := by rw [written, digitsOf_digit digit]

/-- Multiplying by a power of ten writes zeros behind a number. -/
theorem digitsOf_mul_pow {n : Nat} (positive : 0 < n) (count : Nat) :
    digitsOf (n * 10 ^ count) = digitsOf n ++ List.replicate count '0' := by
  induction count with
  | zero => simp
  | succ count inductionHypothesis =>
      have larger : 0 < n * 10 ^ count := Nat.mul_pos positive (Nat.pow_pos (by decide))
      calc digitsOf (n * 10 ^ (count + 1))
          = digitsOf (10 * (n * 10 ^ count) + 0) := by
            rw [Nat.pow_succ, ← Nat.mul_assoc, Nat.mul_comm, Nat.add_zero]
        _ = digitsOf (n * 10 ^ count) ++ digitsOf 0 :=
            (Nat.toDigits_append_toDigits (by decide) larger (by decide)).symm
        _ = digitsOf n ++ List.replicate (count + 1) '0' := by
            rw [inductionHypothesis, List.append_assoc, List.replicate_succ']
            rfl

/-- A number whose first digit is zero has no other digit. -/
theorem length_digitsOf_of_head_zero {n : Nat} (zero : (digitsOf n).head? = some '0') :
    (digitsOf n).length = 1 := by
  obtain ⟨rest, written⟩ := List.head?_eq_some_iff.mp zero
  rcases Nat.eq_zero_or_pos rest.length with empty | positive
  · rw [written, List.length_cons, empty]
  · have value : digitsValue rest = n := by
      rw [← digitsValue_digitsOf n, written]
      exact (digitsValue_zeros_append 1 rest).symm
    have small : n < 10 ^ rest.length := by
      rw [← value]
      apply digitsValue_lt
      intro c member
      exact isDigit_of_mem_digitsOf (n := n) (by simp [written, member])
    have short := (length_digitsOf_le_iff positive).mpr small
    rw [written, List.length_cons] at short
    omega

/-- A positive number is written without leading zeros. -/
theorem head_digitsOf_ne_zero {n : Nat} (positive : 0 < n) : (digitsOf n).head? ≠ some '0' := by
  intro zero
  obtain ⟨rest, written⟩ := List.head?_eq_some_iff.mp zero
  have alone := length_digitsOf_of_head_zero zero
  rw [written, List.length_cons, Nat.add_eq_right, List.length_eq_zero_iff] at alone
  have value := digitsValue_digitsOf n
  rw [written, alone] at value
  exact Nat.ne_of_gt positive value.symm

/-! ### Zeros in front -/

theorem isDigit_of_mem_zeros {count : Nat} {c : Char} (member : c ∈ List.replicate count '0') :
    c.isDigit = true := by
  rw [List.eq_of_mem_replicate member]
  rfl

/-- Padding adds digits only. -/
theorem isDigit_of_mem_padded {width n : Nat} {c : Char} (member : c ∈ padded width n) :
    c.isDigit = true := by
  rcases List.mem_append.mp member with zero | digit
  · exact isDigit_of_mem_zeros zero
  · exact isDigit_of_mem_digitsOf digit

theorem padded_ne_nil (width n : Nat) : padded width n ≠ [] := by
  simp [padded, digitsOf_ne_nil]

/-- A number that fits is padded to the exact width. -/
theorem length_padded {width n : Nat} (positive : 0 < width) (fits : n < 10 ^ width) :
    (padded width n).length = width := by
  have short := (length_digitsOf_le_iff positive).mpr fits
  simp only [padded, List.length_append, List.length_replicate]
  omega

/-- Padding leaves the number as it is. -/
@[simp] theorem digitsValue_padded (width n : Nat) : digitsValue (padded width n) = n := by
  rw [padded, digitsValue_zeros_append, digitsValue_digitsOf]

/-! ### Numbers are read back -/

/-- The digits of a number are read as that number. -/
theorem readDigits?_digitsOf (n : Nat) : readDigits? (digitsOf n) = some n := by
  rw [readDigits?, if_pos (isDigits_digitsOf n), digitsValue_digitsOf]

theorem digitsOf_eq_cons (n : Nat) : ∃ c tail, digitsOf n = c :: tail ∧ c.isDigit = true := by
  have digits := isDigits_digitsOf n
  cases spelled : digitsOf n with
  | nil => exact absurd spelled (ne_nil_of_isDigits digits)
  | cons c tail => exact ⟨c, tail, rfl, mem_of_isDigits digits c (by simp [spelled])⟩

/-- A natural number is read back from its digits. -/
theorem readNatural?_digitsOf (n : Nat) : readNatural? (digitsOf n) = some n := by
  obtain ⟨c, tail, spelled, digit⟩ := digitsOf_eq_cons n
  have noPlus : c ≠ '+' := by
    rintro rfl
    cases digit
  rw [← readDigits?_digitsOf n, spelled, readNatural?]
  rintro rest same
  exact noPlus (List.cons.inj same).1

/-- Digits without a sign are read as a nonnegative integer. -/
theorem readInteger?_digitsOf (n : Nat) : readInteger? (digitsOf n) = some (n : Int) := by
  obtain ⟨c, tail, spelled, digit⟩ := digitsOf_eq_cons n
  have noMinus : c ≠ '-' := by
    rintro rfl
    cases digit
  have natural := readNatural?_digitsOf n
  rw [spelled] at natural ⊢
  rw [readInteger?, natural]
  · rfl
  · rintro rest same
    exact noMinus (List.cons.inj same).1

/-- An integer is written as its digits, with a minus sign if it is negative. -/
theorem toList_toString_int (i : Int) :
    (toString i).toList = if 0 ≤ i then digitsOf i.toNat else '-' :: digitsOf (-i).toNat := by
  rw [Int.toString_eq_repr, Int.repr_eq_if]
  split
  · rw [Nat.toList_repr]
    rfl
  · simp [digitsOf, Nat.toList_repr]

/-- An integer is read back from its text. -/
theorem readInteger?_toString (i : Int) : readInteger? (toString i).toList = some i := by
  rw [toList_toString_int]
  split
  · rw [readInteger?_digitsOf]
    congr 1
    omega
  · have negated : readInteger? ('-' :: digitsOf (-i).toNat) = some (-((-i).toNat : Int)) := by
      simp [readInteger?, readDigits?_digitsOf]
    rw [negated]
    congr 1
    omega

/-- An integer within its bounds is read back from its text. -/
theorem readIntegerWithin?_toString {low high n : Int} (lower : low ≤ n) (upper : n ≤ high) :
    readIntegerWithin? low high (toString n).toList = some n := by
  rw [readIntegerWithin?, readInteger?_toString]
  simp [Option.filter, lower, upper]

/-- A number beyond the upper bound is refused. -/
theorem readIntegerWithin?_digitsOf_beyond {low high : Int} {n : Nat} (beyond : ¬ (n : Int) ≤ high) :
    readIntegerWithin? low high (digitsOf n) = none := by
  rw [readIntegerWithin?, readInteger?_digitsOf]
  simp [Option.filter, beyond]

end ColumnarSql.Text
