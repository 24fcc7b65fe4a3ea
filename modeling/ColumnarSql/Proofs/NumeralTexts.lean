/-
Module: ColumnarSql.Proofs.NumeralTexts
Purpose: The characters that numbers, dates and times are written with.
Main exports:
  isNumeral, Numerals, Numerals.not_mem, Numerals.trim_eq, Numerals.int,
  Numerals.floatLiteral, Numerals.decimal, Numerals.date, Numerals.time
-/
import ColumnarSql.Proofs.CharacterRuns
import ColumnarSql.Proofs.DigitStrings
import ColumnarSql.Value.Literal

namespace ColumnarSql

open Text

/-- Letters, digits and the marks inside numbers, dates and times. -/
def isNumeral (c : Char) : Bool :=
  isWordChar c || c == '.' || c == '-' || c == '+' || c == ':'

/-- Only numeral characters. -/
def Numerals (s : List Char) : Prop :=
  ∀ c ∈ s, isNumeral c = true

theorem isNumeral_of_isDigit {c : Char} (digit : c.isDigit = true) : isNumeral c = true := by
  simp [isNumeral, isWordChar_of_isDigit digit]

/-- No character of a number is blank. -/
theorem isBlank_of_isNumeral {c : Char} (numeral : isNumeral c = true) : isBlank c = false := by
  simp only [isNumeral, Bool.or_eq_true, beq_iff_eq] at numeral
  rcases numeral with (((inWord | rfl) | rfl) | rfl) | rfl
  · exact isBlank_of_isWordChar inWord
  all_goals rfl

namespace Numerals

variable {s t : List Char}

theorem nil : Numerals [] := by
  simp [Numerals]

theorem cons {c : Char} (first : isNumeral c = true) (rest : Numerals s) : Numerals (c :: s) :=
  List.forall_mem_cons.mpr ⟨first, rest⟩

/-- Two runs of numeral characters in a row are one. -/
theorem append (first : Numerals s) (second : Numerals t) : Numerals (s ++ t) :=
  List.forall_mem_append.mpr ⟨first, second⟩

/-- The start of a run of numeral characters is one. -/
theorem take (numerals : Numerals s) (count : Nat) : Numerals (s.take count) :=
  fun c member => numerals c (List.mem_of_mem_take member)

/-- The end of a run of numeral characters is one. -/
theorem drop (numerals : Numerals s) (count : Nat) : Numerals (s.drop count) :=
  fun c member => numerals c (List.mem_of_mem_drop member)

theorem zeros (count : Nat) : Numerals (List.replicate count '0') :=
  fun _ member => isNumeral_of_isDigit (isDigit_of_mem_zeros member)

/-- The digits of a number are numeral characters. -/
theorem digitsOf (n : Nat) : Numerals (digitsOf n) :=
  fun _ member => isNumeral_of_isDigit (isDigit_of_mem_digitsOf member)

/-- Padding a number adds numeral characters only. -/
theorem padded (width n : Nat) : Numerals (padded width n) :=
  fun _ member => isNumeral_of_isDigit (isDigit_of_mem_padded member)

/-- A character of another class does not occur. -/
theorem not_mem (numerals : Numerals s) {mark : Char} (other : isNumeral mark = false) :
    mark ∉ s := by
  intro member
  rw [numerals mark member] at other
  cases other

/-- There are no blanks at the ends. -/
theorem trim_eq (numerals : Numerals s) : trim s = s := by
  apply trim_eq_self
  · intro c first
    exact isBlank_of_isNumeral (numerals c (List.mem_of_mem_head? first))
  · intro c last
    exact isBlank_of_isNumeral (numerals c (List.mem_of_mem_getLast? last))

/-! ### Numbers -/

theorem nat (n : Nat) : Numerals (toString n).toList := by
  rw [toList_toString_nat]
  exact digitsOf n

/-- Integers are written in numeral characters, the minus sign included. -/
theorem int (n : Int) : Numerals (toString n).toList := by
  cases n with
  | ofNat n => exact nat n
  | negSucc n =>
      rw [toList_toString_negSucc]
      exact cons rfl (digitsOf (n + 1))

/-- Placing the point among numeral characters brings in no others. -/
theorem positionalText {digits : List Char} (numerals : Numerals digits) (marksWhole : Bool)
    (point : Int) : Numerals (Double.positionalText marksWhole digits point) := by
  have marked : Numerals (if marksWhole then ['.', '0'] else []) := by
    cases marksWhole with
    | true => exact cons rfl (cons rfl nil)
    | false => exact nil
  rw [Double.positionalText]
  split
  · exact (numerals.append (zeros _)).append marked
  · split
    · exact (numerals.take _).append (cons rfl (numerals.drop _))
    · exact cons rfl (cons rfl ((zeros _).append numerals))

/-- Doubles are written in numeral characters, also those that are no numbers.
-/
theorem floatLiteral (x : Double) : Numerals (Value.floatLiteral x).toList := by
  cases x with
  | nan => exact forall_mem_of_all (by decide)
  | number negative rank =>
      have magnitude : Numerals (if Double.infinityRank ≤ rank.val then "inf".toList
          else Double.Layout.plain.magnitude rank.val) := by
        split
        · exact forall_mem_of_all (by decide)
        · simp only [Double.Layout.magnitude, Double.Layout.plain, Bool.or_true, if_true]
          exact (digitsOf _).positionalText false _
      rw [Value.floatLiteral, Double.Layout.write, String.toList_ofList]
      cases negative with
      | true => exact cons rfl magnitude
      | false => exact magnitude

/-- Decimals are written in numeral characters, point and sign included. -/
theorem decimal (d : Decimal) : Numerals d.text.toList := by
  have digits := padded (d.scale + 1) d.mantissa
  have magnitude (count : Nat) : Numerals (if d.scale == 0 then
      (Text.padded (d.scale + 1) d.mantissa).take count
      else (Text.padded (d.scale + 1) d.mantissa).take count ++
        '.' :: (Text.padded (d.scale + 1) d.mantissa).drop count) := by
    split
    · exact digits.take count
    · exact (digits.take count).append (cons rfl (digits.drop count))
  rw [Decimal.text, String.toList_ofList]
  cases d.negative with
  | true => exact cons rfl (magnitude _)
  | false => exact magnitude _

/-! ### Dates and times -/

/-- Dates are written in numeral characters. -/
theorem date (date : Date) : Numerals date.chars := by
  have year : Numerals (Date.yearText date.year) := by
    rw [Date.yearText]
    split
    · exact cons rfl (padded 4 _)
    · split
      · exact cons rfl (padded 4 _)
      · exact padded 4 _
  exact (year.append (cons rfl (padded 2 _))).append (cons rfl (padded 2 _))

/-- Times are written in numeral characters, with colons and a point. -/
theorem time (time : Time) : Numerals time.chars := by
  have fraction : Numerals (Time.fractionText time.nanosecond) := by
    rw [Time.fractionText]
    split
    · exact nil
    · split
      · exact cons rfl (padded 3 _)
      · split
        · exact cons rfl (padded 6 _)
        · exact cons rfl (padded 9 _)
  exact (((padded 2 _).append (cons rfl (padded 2 _))).append (cons rfl (padded 2 _))).append fraction

end Numerals

end ColumnarSql
