/-
Module: ColumnarSql.Proofs.DecimalRounding
Purpose: Numbers written as texts of any length.  Reading rounds them to the
  digits that a decimal can hold, and a column cuts off what was read, so the
  rounding shows where it carries into the digits that the column keeps.
Main exports:
  PositionalText, Decimal.roundedUnits, Decimal.heldPlaces, Decimal.held,
  Decimal.toRat_of_readPositional?, Decimal.read?_positional,
  ColumnType.coerce_decimal_text_iff
-/
import ColumnarSql.Proofs.DecimalTruncation
import ColumnarSql.Proofs.ValueTexts

namespace ColumnarSql

open Text

/-! ### Texts that write a number -/

/-- Digits behind a point. -/
def fractionValue (digits : List Char) : ℚ :=
  digitsValue digits / 10 ^ digits.length

/-- Digits, and perhaps a point and more digits, with the number they write. -/
inductive MagnitudeText : List Char → ℚ → Prop where
  | whole {digits : List Char} (areDigits : ∀ c ∈ digits, c.isDigit = true) :
      MagnitudeText digits (digitsValue digits)
  | point {digits fraction : List Char} (areDigits : ∀ c ∈ digits, c.isDigit = true)
      (behind : ∀ c ∈ fraction, c.isDigit = true) :
      MagnitudeText (digits ++ '.' :: fraction) (digitsValue digits + fractionValue fraction)

/-- A number with a sign. -/
def signed (negative : Bool) (x : ℚ) : ℚ :=
  if negative then -x else x

/-- A text with an optional sign, and the number that it writes. -/
inductive PositionalText : List Char → ℚ → Prop where
  | unsigned {s : List Char} {x : ℚ} (written : MagnitudeText s x) : PositionalText s x
  | plus {s : List Char} {x : ℚ} (written : MagnitudeText s x) : PositionalText ('+' :: s) x
  | minus {s : List Char} {x : ℚ} (written : MagnitudeText s x) : PositionalText ('-' :: s) (-x)

theorem fractionValue_nil : fractionValue [] = 0 := by
  simp [fractionValue, digitsValue]

/-- The first digit behind the point counts tenths, and the others a tenth of
what they would count in its place. -/
theorem fractionValue_cons (c : Char) (rest : List Char) :
    fractionValue (c :: rest) = ((c.toNat - '0'.toNat : ℕ) + fractionValue rest) / 10 := by
  rw [fractionValue, digitsValue_cons, List.length_cons, pow_succ, fractionValue]
  push_cast
  field_simp

theorem fractionValue_nonneg (digits : List Char) : 0 ≤ fractionValue digits := by
  rw [fractionValue]
  positivity

/-- Digits behind the point never make up a whole. -/
theorem fractionValue_lt_one {digits : List Char} (areDigits : ∀ c ∈ digits, c.isDigit = true) :
    fractionValue digits < 1 := by
  have bound : (digitsValue digits : ℚ) < 10 ^ digits.length := by
    exact_mod_cast digitsValue_lt areDigits
  rw [fractionValue, div_lt_one (by positivity)]
  exact bound

/-- A text without a sign writes no negative number. -/
theorem MagnitudeText.nonneg {s : List Char} {x : ℚ} (written : MagnitudeText s x) : 0 ≤ x := by
  cases written with
  | whole _ => positivity
  | @point digits fraction _ _ =>
      have behind := fractionValue_nonneg fraction
      positivity

theorem MagnitudeText.chars {s : List Char} {x : ℚ} (written : MagnitudeText s x) :
    ∀ c ∈ s, c.isDigit = true ∨ c = '.' := by
  intro c member
  cases written with
  | whole areDigits => exact .inl (areDigits c member)
  | point areDigits behind =>
      rcases List.mem_append.mp member with before | after
      · exact .inl (areDigits c before)
      · rcases List.mem_cons.mp after with rfl | later
        · exact .inr rfl
        · exact .inl (behind c later)

/-! ### Truncation of signed numbers -/

/-- Cutting off toward zero treats both signs alike. -/
theorem truncatedTo_signed (scale : Nat) (negative : Bool) (x : ℚ) :
    truncatedTo scale (signed negative x) = signed negative (truncatedTo scale x) := by
  cases negative with
  | false => rfl
  | true => exact truncatedTo_neg scale x

/-- Numbers of one sign are equal if their magnitudes are. -/
theorem signed_inj {negative : Bool} {x y : ℚ} : signed negative x = signed negative y ↔ x = y := by
  cases negative with
  | false => rfl
  | true => exact neg_inj

theorem abs_signed {x : ℚ} (nonneg : 0 ≤ x) (negative : Bool) : |signed negative x| = x := by
  cases negative with
  | false => exact abs_of_nonneg nonneg
  | true => exact (abs_neg x).trans (abs_of_nonneg nonneg)

namespace Decimal

/-! ### The number that a decimal can hold -/

/-- A number rounded half up to `places` fraction digits, in units of the last
of them. -/
def roundedUnits (x : ℚ) (places : Nat) : Nat :=
  ⌊x * 10 ^ places + 1 / 2⌋₊

/-- The most fraction digits with which a decimal can hold a number. -/
def heldPlaces (x : ℚ) : Nat :=
  Nat.findGreatest (fun places => roundedUnits x places < mantissaBound) maxScale

/-- A number rounded half up to as many fraction digits as a decimal can
hold. -/
def held (x : ℚ) : ℚ :=
  roundedUnits x (heldPlaces x) / 10 ^ heldPlaces x

section Held

variable {x : ℚ} {places m : Nat} {t : ℚ}

/-- With more places there are at least as many units. -/
theorem roundedUnits_mono (nonneg : 0 ≤ x) {more : Nat} (le : places ≤ more) :
    roundedUnits x places ≤ roundedUnits x more := by
  have power : (10 : ℚ) ^ places ≤ 10 ^ more := pow_le_pow_right₀ (by norm_num) le
  apply Nat.floor_le_floor
  gcongr

/-- Less than half a unit is rounded away. -/
theorem roundedUnits_eq_self (split : x * 10 ^ places = m + t) (nonneg : 0 ≤ t) (small : t < 1 / 2) :
    roundedUnits x places = m := by
  rw [roundedUnits, split, Nat.floor_eq_iff (by positivity)]
  constructor <;> linarith

/-- Half a unit or more is rounded up. -/
theorem roundedUnits_eq_succ (split : x * 10 ^ places = m + t) (large : 1 / 2 ≤ t) (lt : t < 1) :
    roundedUnits x places = m + 1 := by
  rw [roundedUnits, split, Nat.floor_eq_iff (by positivity)]
  push_cast
  constructor <;> linarith

/-- Rounding never goes below a whole number of units that the number reaches.
-/
theorem le_roundedUnits (nonneg : 0 ≤ x) (le : (m : ℚ) ≤ x * 10 ^ places) :
    m ≤ roundedUnits x places := by
  rw [roundedUnits, Nat.le_floor_iff (by positivity)]
  linarith

/-- The digits stop where one more of them would not fit. -/
theorem heldPlaces_eq (nonneg : 0 ≤ x) (within : places ≤ maxScale)
    (fits : roundedUnits x places < mantissaBound)
    (full : places < maxScale → mantissaBound ≤ roundedUnits x (places + 1)) :
    heldPlaces x = places := by
  rw [heldPlaces, Nat.findGreatest_eq_iff]
  refine ⟨within, fun _ => fits, ?_⟩
  intro more beyond inRange
  rw [Nat.not_lt]
  exact (full (beyond.trans_le inRange)).trans (roundedUnits_mono nonneg beyond)

/-- A number that a decimal can hold is held exactly. -/
theorem held_of_exact (exact : x * 10 ^ places = m) (within : places ≤ maxScale)
    (fits : m < mantissaBound) : held x = x := by
  have rounded : roundedUnits x places = m :=
    roundedUnits_eq_self (by rw [exact, add_zero]) le_rfl (by norm_num)
  have enough : places ≤ heldPlaces x :=
    Nat.le_findGreatest within (by rw [rounded]; exact fits)
  have scaled : x * 10 ^ heldPlaces x = (m * 10 ^ (heldPlaces x - places) : ℕ) := by
    rw [← Nat.add_sub_of_le enough, pow_add, Nat.add_sub_cancel_left, ← mul_assoc, exact]
    push_cast
    rfl
  have units := roundedUnits_eq_self (t := 0) (by rw [scaled, add_zero]) le_rfl (by norm_num)
  rw [held, units, ← scaled, mul_div_cancel_right₀ _ (by positivity)]

end Held

/-! ### Reading rounds -/

/-- A decimal that is built from parts is the number that they make. -/
theorem toRat_of_ofParts? {negative : Bool} {mantissa scale : Nat} {d : Decimal}
    (built : ofParts? negative mantissa scale = some d) :
    d.toRat = signed negative (mantissa / 10 ^ scale) := by
  rw [ofParts?] at built
  split at built
  · split at built
    · cases built
      by_cases zero : mantissa = 0
      · cases negative <;> simp [toRat, signed, zero]
      · cases negative <;> simp [toRat, signed, zero]
    · cases built
  · cases built

/-- The first digit without room decides the rounding. -/
theorem toRat_of_close {negative : Bool} {p : Progress} {digit : Nat} {d : Decimal} {x t : ℚ}
    (nonneg : 0 ≤ x) (room : p.mantissa < mantissaBound) (places : p.scale ≤ maxScale)
    (split : x * 10 ^ p.scale = p.mantissa + t) (lower : (digit : ℚ) / 10 ≤ t)
    (upper : t < (digit + 1 : ℚ) / 10) (isDigit : digit < 10)
    (full : p.scale < maxScale → mantissaBound ≤ p.mantissa * 10 + digit)
    (closed : p.close negative digit = some d) : d.toRat = signed negative (held x) := by
  have fraction : 0 ≤ t := le_trans (by positivity) lower
  have lt : t < 1 := by
    have : (digit : ℚ) ≤ 9 := by exact_mod_cast Nat.le_of_lt_succ isDigit
    linarith
  have noMore : p.scale < maxScale → mantissaBound ≤ roundedUnits x (p.scale + 1) := by
    intro below
    refine (full below).trans (le_roundedUnits nonneg ?_)
    rw [pow_succ, ← mul_assoc, split]
    push_cast
    linarith
  rw [Progress.close] at closed
  split at closed
  · rename_i small
    have half : t < 1 / 2 := by
      have : (digit : ℚ) ≤ 4 := by exact_mod_cast Nat.le_of_lt_succ small
      linarith
    have units := roundedUnits_eq_self split fraction half
    have held := heldPlaces_eq nonneg places (by rwa [units]) noMore
    rw [toRat_of_ofParts? closed, Decimal.held, held, units]
  · rename_i large
    have half : 1 / 2 ≤ t := by
      have : (5 : ℚ) ≤ digit := by exact_mod_cast Nat.le_of_not_lt large
      linarith
    have units := roundedUnits_eq_succ split half lt
    split at closed
    · rename_i fits
      have held := heldPlaces_eq nonneg places (by rwa [units]) noMore
      rw [toRat_of_ofParts? closed, Decimal.held, held, units]
    · rename_i overflow
      split at closed
      · cases closed
      · -- The mantissa is as large as it can be, so the number gives up a digit.
        rename_i hasPlaces
        obtain ⟨fewer, scale⟩ : ∃ fewer, p.scale = fewer + 1 :=
          Nat.exists_eq_succ_of_ne_zero (by simpa using hasPlaces)
        have shorter : roundedUnits x fewer = (p.mantissa + 1 + 4) / 10 := by
          have tenth : x * 10 ^ fewer + 1 / 2 = (t + (p.mantissa + 5 : ℕ)) / (10 : ℕ) := by
            rw [scale, pow_succ, ← mul_assoc] at split
            push_cast
            linarith
          rw [roundedUnits, tenth, Nat.floor_div_natCast, Nat.floor_add_natCast fraction,
            Nat.floor_eq_zero.mpr lt, Nat.zero_add]
        have bound : mantissaBound = 79228162514264337593543950336 := rfl
        have held : heldPlaces x = fewer := by
          refine heldPlaces_eq nonneg (by omega) (by omega) fun _ => ?_
          rw [← scale, units]
          omega
        rw [toRat_of_ofParts? closed, Decimal.held, held, shorter, scale, Nat.add_sub_cancel]

/-- A digit that is read is appended, or it finds no room behind the point and
closes the number. -/
theorem readBody_digit {negative : Bool} {p : Progress} {c : Char} {rest : List Char} {d : Decimal}
    (digit : c.isDigit = true) (read : readBody negative p (c :: rest) = some d) :
    (p.mantissa * 10 + (c.toNat - '0'.toNat) < mantissaBound ∧
        (p.afterPoint = true → p.scale < maxScale) ∧
        readBody negative (p.push (c.toNat - '0'.toNat)) rest = some d) ∨
      (p.afterPoint = true ∧
        (p.scale < maxScale → mantissaBound ≤ p.mantissa * 10 + (c.toNat - '0'.toNat)) ∧
        p.close negative (c.toNat - '0'.toNat) = some d) := by
  rw [readBody] at read
  by_cases allPlaces : (p.afterPoint && decide (maxScale ≤ p.scale)) = true
  · right
    simp only [Bool.and_eq_true, decide_eq_true_eq] at allPlaces
    rw [if_pos (by simpa using allPlaces), droppedDigit?, if_pos digit] at read
    split at read
    · exact ⟨allPlaces.1, fun below => absurd allPlaces.2 (Nat.not_le.mpr below), read⟩
    · cases read
  · rw [if_neg allPlaces, if_pos digit] at read
    simp only [Bool.and_eq_true, decide_eq_true_eq, not_and, Nat.not_le] at allPlaces
    by_cases noRoom : mantissaBound ≤ p.mantissa * 10 + (c.toNat - '0'.toNat)
    · right
      rw [if_pos noRoom] at read
      split at read
      · rename_i closes
        exact ⟨(Bool.and_eq_true_iff.mp closes).1, fun _ => noRoom, read⟩
      · cases read
    · left
      rw [if_neg noRoom] at read
      exact ⟨Nat.lt_of_not_le noRoom, allPlaces, read⟩

/-- Reading digits behind the point rounds the number to what can be held. -/
theorem toRat_of_readFraction {negative : Bool} {x : ℚ} (nonneg : 0 ≤ x) {d : Decimal}
    {fraction : List Char} (areDigits : ∀ c ∈ fraction, c.isDigit = true) {p : Progress}
    (point : p.afterPoint = true) (room : p.mantissa < mantissaBound)
    (places : p.scale ≤ maxScale) (split : x * 10 ^ p.scale = p.mantissa + fractionValue fraction)
    (read : readBody negative p fraction = some d) : d.toRat = signed negative (held x) := by
  induction fraction generalizing p with
  | nil =>
      rw [readBody] at read
      rw [fractionValue_nil, add_zero] at split
      split at read
      · rw [toRat_of_ofParts? read, held_of_exact split places room, ← split,
          mul_div_cancel_right₀ _ (by positivity)]
      · cases read
  | cons c rest inductionHypothesis =>
      have digit := areDigits c (by simp)
      have later : ∀ e ∈ rest, e.isDigit = true := fun e member => areDigits e (by simp [member])
      have restNonneg := fractionValue_nonneg rest
      have restLt := fractionValue_lt_one later
      rw [fractionValue_cons] at split
      rcases readBody_digit digit read with ⟨fits, morePlaces, read⟩ | ⟨-, full, closed⟩
      · have stillBehind : (p.push (c.toNat - '0'.toNat)).afterPoint = true := point
        refine inductionHypothesis later stillBehind fits ?_ ?_ read
        · simp only [Progress.push, point, if_true]
          exact morePlaces point
        · simp only [Progress.push, point, if_true, pow_succ]
          rw [← mul_assoc, split]
          push_cast
          ring
      · exact toRat_of_close nonneg room places split (by linarith) (by linarith)
          (digitValue_lt digit) full closed

/-- Before the point there is room for all digits, or nothing is read. -/
theorem room_of_readBody {negative : Bool} {d : Decimal} {digits rest : List Char}
    (areDigits : ∀ c ∈ digits, c.isDigit = true) {p : Progress} (before : p.afterPoint = false)
    (room : p.mantissa < mantissaBound) (read : readBody negative p (digits ++ rest) = some d) :
    (p.after digits).mantissa < mantissaBound := by
  induction digits generalizing p with
  | nil => rwa [Progress.after_nil]
  | cons c digits inductionHypothesis =>
      rw [Progress.after_cons]
      rcases readBody_digit (areDigits c (by simp)) read with ⟨fits, -, read⟩ | ⟨behind, -, -⟩
      · exact inductionHypothesis (fun e member => areDigits e (by simp [member])) before fits read
      · rw [before] at behind
        cases behind

/-- Digits with a point are read as the number they write, rounded to what a
decimal can hold. -/
theorem toRat_of_readBody {negative : Bool} {s : List Char} {x : ℚ} (written : MagnitudeText s x)
    {d : Decimal} (read : readBody negative ⟨0, 0, false, false⟩ s = some d) :
    d.toRat = signed negative (held x) := by
  have nonneg := written.nonneg
  have empty : (⟨0, 0, false, false⟩ : Progress).mantissa < mantissaBound := by decide
  have start : ∀ digits, (⟨0, 0, false, false⟩ : Progress).after digits =
      ⟨digitsValue digits, 0, false, !digits.isEmpty⟩ := by
    intro digits
    simp [Progress.after]
  cases written with
  | whole areDigits =>
      have nonempty : s ≠ [] := by
        rintro rfl
        cases read
      have room : digitsValue s < mantissaBound := by
        rw [← List.append_nil s] at read
        simpa only [start] using room_of_readBody areDigits rfl empty read
      rw [readBody_whole negative nonempty areDigits room] at read
      rw [toRat_of_ofParts? read, pow_zero, div_one]
      congr 1
      exact (held_of_exact (by rw [pow_zero, mul_one]) (Nat.zero_le _) room).symm
  | @point digits fraction areDigits behind =>
      have room := room_of_readBody areDigits rfl empty read
      rw [readBody_digits negative _ areDigits room (by simp), start] at read
      rw [start] at room
      have behindPoint : readBody negative ⟨digitsValue digits, 0, true, !digits.isEmpty⟩ fraction =
          some d := read
      refine toRat_of_readFraction nonneg behind ?_ ?_ (Nat.zero_le _) ?_ behindPoint
      · rfl
      · exact room
      · simp

/-- A text without a sign is read as it stands. -/
theorem readPositional?_unsigned {s : List Char} {x : ℚ} (written : MagnitudeText s x) :
    readPositional? s = readBody false ⟨0, 0, false, false⟩ s := by
  rw [readPositional?.eq_def]
  split
  · exact absurd (written.chars '-' (by simp)) (by decide)
  · exact absurd (written.chars '+' (by simp)) (by decide)
  · rfl

/-- Every number is a magnitude with a sign, and reading its text rounds the
magnitude. -/
theorem toRat_of_readPositional? {s : List Char} {number : ℚ} (written : PositionalText s number)
    {d : Decimal} (read : readPositional? s = some d) :
    ∃ negative x, 0 ≤ x ∧ number = signed negative x ∧ d.toRat = signed negative (held x) := by
  cases written with
  | unsigned written =>
      rw [readPositional?_unsigned written] at read
      exact ⟨false, _, written.nonneg, rfl, toRat_of_readBody written read⟩
  | plus written => exact ⟨false, _, written.nonneg, rfl, toRat_of_readBody written read⟩
  | minus written => exact ⟨true, _, written.nonneg, rfl, toRat_of_readBody written read⟩

theorem positionalText_chars {s : List Char} {number : ℚ} (written : PositionalText s number) :
    ∀ c ∈ s, c.isDigit = true ∨ c = '.' ∨ c = '+' ∨ c = '-' := by
  have magnitude : ∀ {s : List Char} {x : ℚ}, MagnitudeText s x →
      ∀ c ∈ s, c.isDigit = true ∨ c = '.' ∨ c = '+' ∨ c = '-' := by
    intro s x written c member
    rcases written.chars c member with digit | point
    · exact .inl digit
    · exact .inr (.inl point)
  intro c member
  cases written with
  | unsigned written => exact magnitude written c member
  | plus written =>
      rcases List.mem_cons.mp member with sign | later
      · exact .inr (.inr (.inl sign))
      · exact magnitude written c later
  | minus written =>
      rcases List.mem_cons.mp member with sign | later
      · exact .inr (.inr (.inr sign))
      · exact magnitude written c later

/-- Without an exponent mark no exponent is split off. -/
theorem splitExponent_eq_none {s : List Char} (noMark : ∀ c ∈ s, c ≠ 'e' ∧ c ≠ 'E') :
    splitExponent s = none := by
  induction s with
  | nil => rfl
  | cons c rest inductionHypothesis =>
      have first := noMark c (by simp)
      have later := inductionHypothesis fun e member => noMark e (by simp [member])
      simp [splitExponent, first, later]

/-- A text in positional form is not read in scientific form. -/
theorem read?_positional {s : List Char} {number : ℚ} (written : PositionalText s number) :
    read? s = readPositional? s := by
  have noMark : ∀ c ∈ s, c ≠ 'e' ∧ c ≠ 'E' := by
    intro c member
    rcases positionalText_chars written c member with digit | rfl | rfl | rfl
    · constructor
      · rintro rfl
        exact absurd digit (by decide)
      · rintro rfl
        exact absurd digit (by decide)
    · decide
    · decide
    · decide
  rw [read?, readScientific?, splitExponent_eq_none noMark, Option.or_none]

/-- A text that writes a number has no blanks to trim. -/
theorem trim_positional {s : List Char} {number : ℚ} (written : PositionalText s number) :
    trim s = s := by
  have solid : ∀ c ∈ s, isBlank c = false := by
    intro c member
    rcases positionalText_chars written c member with digit | rfl | rfl | rfl
    · exact isBlank_of_isWordChar (isWordChar_of_isDigit digit)
    · decide
    · decide
    · decide
  exact trim_eq_self (fun c first => solid c (List.mem_of_mem_head? first))
    fun c last => solid c (List.mem_of_mem_getLast? last)

/-! ### What the rounding does to the digits that a column keeps -/

/-- A small summand changes the whole part only if it carries. -/
theorem floor_add_eq_iff {x ε : ℚ} (nonneg : 0 ≤ x) (small : 0 ≤ ε) :
    ⌊x + ε⌋₊ = ⌊x⌋₊ ↔ Int.fract x + ε < 1 := by
  have whole : (⌊x⌋₊ : ℚ) = x - Int.fract x := by
    rw [Int.self_sub_fract, natCast_floor_eq_intCast_floor nonneg]
  have lower := Nat.floor_le nonneg
  rw [Nat.floor_eq_iff (by positivity), whole]
  constructor
  · intro bounds
    linarith [bounds.2]
  · intro noCarry
    constructor <;> linarith

/-- The digits that a column keeps of the number held are those of the number
itself with half a unit of the last place held added to it. -/
theorem floor_held_mul_pow {x : ℚ} {scale : Nat} (enough : scale ≤ heldPlaces x) :
    ⌊held x * 10 ^ scale⌋₊ = ⌊x * 10 ^ scale + 1 / (2 * 10 ^ (heldPlaces x - scale))⌋₊ := by
  obtain ⟨more, places⟩ := Nat.exists_eq_add_of_le enough
  have units : held x * 10 ^ scale = (roundedUnits x (heldPlaces x) : ℚ) / (10 ^ more : ℕ) := by
    rw [held, places, pow_add]
    push_cast
    field_simp
  have unrounded : x * 10 ^ scale + 1 / (2 * 10 ^ (heldPlaces x - scale)) =
      (x * 10 ^ heldPlaces x + 1 / 2) / (10 ^ more : ℕ) := by
    rw [places, Nat.add_sub_cancel_left, pow_add]
    push_cast
    field_simp
  rw [units, unrounded, Nat.floor_div_natCast, Nat.floor_div_natCast, Nat.floor_natCast,
    roundedUnits]

theorem held_nonneg (x : ℚ) : 0 ≤ held x := by
  rw [held]
  positivity

/-- The rounding stays behind the digits of a column unless it carries into
the last of them. -/
theorem truncatedTo_held_eq_iff {x : ℚ} (nonneg : 0 ≤ x) {scale : Nat}
    (enough : scale ≤ heldPlaces x) :
    truncatedTo scale (held x) = truncatedTo scale x ↔
      Int.fract (x * 10 ^ scale) + 1 / (2 * 10 ^ (heldPlaces x - scale)) < 1 := by
  have power : (10 : ℚ) ^ scale ≠ 0 := by positivity
  rw [truncatedTo_of_nonneg (held_nonneg x), truncatedTo_of_nonneg nonneg,
    div_left_inj' power, Nat.cast_inj, floor_held_mul_pow enough]
  exact floor_add_eq_iff (by positivity) (by positivity)

/-- A number with at most 28 digits is held with all fraction digits of its
column. -/
theorem le_heldPlaces {x : ℚ} (nonneg : 0 ≤ x) {precision scale : Nat} (within : scale ≤ precision)
    (bounded : precision ≤ maxScale) (fits : held x < 10 ^ (precision - scale)) :
    scale ≤ heldPlaces x := by
  by_contra fewer
  have below : heldPlaces x + 1 ≤ scale := Nat.lt_of_not_le fewer
  -- One more digit would have fitted.
  have inRange : heldPlaces x + 1 ≤ maxScale := by omega
  have full : ¬ roundedUnits x (heldPlaces x + 1) < mantissaBound :=
    Nat.findGreatest_is_greatest (P := fun places => roundedUnits x places < mantissaBound)
      (Nat.lt_succ_self _) inRange
  apply full
  rw [held, div_lt_iff₀ (by positivity)] at fits
  have rounded : x * 10 ^ heldPlaces x + 1 / 2 < 10 ^ (precision - scale) * 10 ^ heldPlaces x + 1 := by
    have next := Nat.lt_floor_add_one (x * 10 ^ heldPlaces x + 1 / 2)
    rw [← roundedUnits] at next
    linarith
  have power : (10 : ℚ) ^ (precision - scale) * 10 ^ heldPlaces x * 10 ≤ 10 ^ maxScale := by
    rw [← pow_add, ← pow_succ]
    exact pow_le_pow_right₀ (by norm_num) (by omega)
  have bound : (10 : ℚ) ^ maxScale + 10 < mantissaBound := by
    norm_num [maxScale, mantissaBound]
  rw [roundedUnits, Nat.floor_lt (by positivity), pow_succ, ← mul_assoc]
  linarith

end Decimal

namespace ColumnType

open Coercion

/-- A decimal column with at most 28 digits that takes a text cuts off the
number written there, except where the rounding to the digits that a decimal
can hold carries into the digits of the column: what is behind the last digit
of the column, in units of that digit, must stay below one by more than half
a unit of the last digit held. -/
theorem coerce_decimal_text_iff {text : String} {number : ℚ}
    (written : PositionalText text.toList number) {precision scale : UInt32}
    (within : scale.toNat ≤ precision.toNat) (bounded : precision.toNat ≤ 28) {stored : Value}
    (taken : (scalar (.decimal precision scale)).coerce (.string text) = .ok stored) :
    ∃ d, stored = .decimal d ∧
      (d.toRat = truncatedTo scale.toNat number ↔
        Int.fract (|number| * 10 ^ scale.toNat) +
          1 / (2 * 10 ^ (Decimal.heldPlaces |number| - scale.toNat)) < 1) := by
  have read : decimalOf? (.string text) = Decimal.readPositional? text.toList := by
    rw [decimalOf?, Decimal.trim_positional written, Decimal.read?_positional written]
  obtain ⟨d, isDecimal⟩ : ∃ d, decimalOf? (.string text) = some d := by
    obtain ⟨d, isDecimal, -⟩ := toDecimal_iff.mp (coerce_scalar_iff.mp taken).2
    exact ⟨d, isDecimal⟩
  obtain ⟨fits, rfl⟩ := (coerce_decimal_iff isDecimal).mp taken
  rw [read] at isDecimal
  obtain ⟨negative, x, nonneg, rfl, rounded⟩ := Decimal.toRat_of_readPositional? written isDecimal
  refine ⟨_, rfl, ?_⟩
  have small : Decimal.held x < 10 ^ (precision.toNat - scale.toNat) := by
    rw [← Decimal.floor_abs_toRat, rounded, abs_signed (Decimal.held_nonneg x),
      Nat.floor_lt (Decimal.held_nonneg x)] at fits
    exact_mod_cast fits
  rw [Decimal.toRat_storedAt, rounded, truncatedTo_signed, truncatedTo_signed, signed_inj,
    abs_signed nonneg]
  exact Decimal.truncatedTo_held_eq_iff nonneg (Decimal.le_heldPlaces nonneg within bounded small)

/-- The text `-123.459` is short enough to be read exactly, and is cut off. -/
theorem coerce_decimal_text_short :
    ∃ d, (scalar (.decimal 10 2)).coerce (.string "-123.459") = .ok (.decimal d) ∧
      d.toRat = -123.45 := by
  have written : PositionalText "-123.459".toList (-123.459) := by
    have digits : MagnitudeText ("123".toList ++ '.' :: "459".toList)
        (digitsValue "123".toList + fractionValue "459".toList) :=
      .point (forall_mem_of_all (by decide)) (forall_mem_of_all (by decide))
    have number : (digitsValue "123".toList + fractionValue "459".toList : ℚ) = 123.459 := by
      decide +kernel
    rw [number] at digits
    exact .minus digits
  have taken : (scalar (.decimal 10 2)).coerce (.string "-123.459") =
      .ok (.decimal ⟨true, 12345, 2, by decide, by decide⟩) := by
    rfl
  obtain ⟨d, same, exactly⟩ := coerce_decimal_text_iff written (by decide) (by decide) taken
  rw [same] at taken
  refine ⟨d, taken, (exactly.mpr ?_).trans ?_⟩
  · decide +kernel
  · decide +kernel

/-- Twenty-nine nines behind the point are read as one, which a column with two
fraction digits stores in place of `0.99`. -/
theorem coerce_decimal_text_rounds_up :
    PositionalText "0.99999999999999999999999999999".toList 0.99999999999999999999999999999 ∧
      truncatedTo 2 0.99999999999999999999999999999 = 0.99 ∧
      ∃ d, (scalar (.decimal 10 2)).coerce (.string "0.99999999999999999999999999999") =
          .ok (.decimal d) ∧ d.toRat = 1 := by
  refine ⟨?_, ?_, ⟨false, 100, 2, by decide, by decide⟩, by rfl, by decide +kernel⟩
  · have digits : MagnitudeText ("0".toList ++ '.' :: "99999999999999999999999999999".toList)
        (digitsValue "0".toList + fractionValue "99999999999999999999999999999".toList) :=
      .point (forall_mem_of_all (by decide)) (forall_mem_of_all (by decide))
    have number : (digitsValue "0".toList +
        fractionValue "99999999999999999999999999999".toList : ℚ) =
          0.99999999999999999999999999999 := by
      decide +kernel
    rw [number] at digits
    exact .unsigned digits
  · decide +kernel

end ColumnType

end ColumnarSql
