/-
Module: ColumnarSql.Proofs.TextCoercion
Purpose: A column takes a value and the text of the value alike.
Main exports:
  Value.plainText, HasText, ColumnType.coerce_plainText
-/
import ColumnarSql.Proofs.DecimalTruncation
import ColumnarSql.Proofs.NumeralTexts
import ColumnarSql.Proofs.ValueTexts

namespace ColumnarSql

open Text

/-! ### Texts -/

/-- The literal of a value, without the quotes of dates and times. -/
def Value.plainText (value : Value) : String :=
  match value with
  | .date _ | .dateTime _ => String.ofList ((value.literal false).toList.drop 1).dropLast
  | _ => value.literal false

/-- The types of columns and the values that they take as texts too.  The text
of a zero has no sign. -/
inductive HasText : Scalar → Value → Prop where
  | integerOfInt (type : IntegerType) (n : Int64) : HasText (.integer type) (.int n)
  | integerOfUInt (type : IntegerType) (n : UInt64) : HasText (.integer type) (.uint n)
  | decimalOfInt (precision scale : UInt32) (n : Int64) : HasText (.decimal precision scale) (.int n)
  | decimalOfUInt (precision scale : UInt32) (n : UInt64) :
      HasText (.decimal precision scale) (.uint n)
  | decimal (precision scale : UInt32) {d : Decimal} : (d.mantissa = 0 → d.negative = false) →
      HasText (.decimal precision scale) (.decimal d)
  | date (d : Date) : HasText .date (.date d)
  | date32 (d : Date) : HasText .date32 (.date d)
  | dateTime (timezone : Option String) (moment : DateTime) :
      HasText (.dateTime timezone) (.dateTime moment)
  | dateTime64 (precision : UInt32) (timezone : Option String) (moment : DateTime) :
      HasText (.dateTime64 precision timezone) (.dateTime moment)

/-- Taking the quotes off again leaves the text. -/
theorem dropQuotes (text : String) :
    String.ofList (("'" ++ text ++ "'").toList.drop 1).dropLast = text := by
  have quotes : ("'" ++ text ++ "'").toList = '\'' :: (text.toList ++ ['\'']) := by simp
  rw [quotes, List.drop_one, List.tail_cons, List.dropLast_concat, String.ofList_toList]

theorem Value.plainText_int (n : Int64) : (Value.int n).plainText = toString n.toInt := rfl

theorem Value.plainText_uint (n : UInt64) :
    (Value.uint n).plainText = toString (n.toNat : Int) := rfl

/-- The plain text of a date is the date without its quotes. -/
theorem Value.plainText_date (d : Date) : (Value.date d).plainText = d.text :=
  dropQuotes d.text

theorem Value.plainText_dateTime (moment : DateTime) :
    (Value.dateTime moment).plainText = moment.text ' ' :=
  dropQuotes (moment.text ' ')

/-! ### Texts of integers, dates and times -/

namespace Decimal

/-- A decimal is read from the text of an integer. -/
theorem read?_toString {n : Int} (small : n.natAbs < mantissaBound) :
    read? (toString n).toList = ofInt? n := by
  have digits (m : Nat) : ∀ c ∈ digitsOf m, c.isDigit = true :=
    fun _ member => isDigit_of_mem_digitsOf member
  have whole (negative : Bool) {m : Nat} (same : m = n.natAbs) :
      readBody negative ⟨0, 0, false, false⟩ (digitsOf m) = ofParts? negative n.natAbs 0 := by
    rw [readBody_whole negative (digitsOf_ne_nil m) (digits m), digitsValue_digitsOf, same]
    rwa [digitsValue_digitsOf, same]
  obtain ⟨d, found, _⟩ := exists_ofInt? small
  have positional : readPositional? (toString n).toList = some d := by
    rw [toList_toString_int]
    -- Only a minus sign is written, and it is read before the digits.
    split
    · rename_i nonneg
      apply readPositional?_of_readBody
      rw [whole false (by omega), ← found, ofInt?, decide_eq_false (by omega)]
    · rename_i negative
      have minus : readPositional? ('-' :: digitsOf (-n).toNat) =
          readBody true ⟨0, 0, false, false⟩ (digitsOf (-n).toNat) := rfl
      rw [minus, whole true (by omega), ← found, ofInt?, decide_eq_true (by omega)]
  rw [read?, positional, found]
  rfl

end Decimal

open Calendar

/-- A date is read as users write it. -/
theorem Date.read?_chars (date : Date) : Date.read? date.chars = some date := by
  have taken := takeDate_chars false date [] (by simp)
  rw [List.append_nil] at taken
  rw [Date.read?, taken]
  rfl

/-- A blank before a time is passed over. -/
theorem Calendar.takeTime_space (loose : Bool) (s : List Char) :
    takeTime loose (' ' :: s) = takeTime loose s := by
  have skipped : takeField (' ' :: s) = takeField s := rfl
  rw [takeTime, skipped, takeTime]

/-- A date and time are read as users write them, leap seconds and fractions
included. -/
theorem DateTime.read?_chars (moment : DateTime) :
    DateTime.read? (moment.date.chars ++ ' ' :: moment.time.chars) = some moment := by
  have date := takeDate_chars false moment.date (' ' :: moment.time.chars) (by
    rintro c ⟨⟩
    rfl)
  have time := takeTime_chars false moment.time [] (by simp) (by simp)
  rw [List.append_nil, ← takeTime_space] at time
  rw [DateTime.read?]
  simp only [date, time, Option.bind_eq_bind, Option.bind_some]
  rfl

/-! ### Coercion -/

namespace Coercion

/-- Only the integer that a value is or writes matters. -/
theorem toInteger_toString (type : IntegerType) (value : Value) {n : Int}
    (isInteger : integerOf? value = some n) (lower : minInt128 ≤ n) (upper : n ≤ maxInt128) :
    toInteger type (.string (toString n)) = toInteger type value := by
  have read : integerOf? (.string (toString n)) = some n := by
    rw [integerOf?, (Numerals.int n).trim_eq]
    exact readIntegerWithin?_toString lower upper
  rw [toInteger, read, toInteger, isInteger]

/-- Only the decimal that a value is or writes matters. -/
theorem toDecimal_eq {precision scale : UInt32} {text : String} {value : Value} {d : Decimal}
    (isDecimal : decimalOf? value = some d) (read : Decimal.read? (trim text.toList) = some d) :
    toDecimal precision scale (.string text) = toDecimal precision scale value := by
  have written : decimalOf? (.string text) = some d := read
  rw [toDecimal, written, toDecimal, isDecimal]

/-- The text of an integer is stored as a decimal like the integer. -/
theorem toDecimal_toString (precision scale : UInt32) (value : Value) {n : Int}
    (isInteger : decimalOf? value = Decimal.ofInt? n) (small : n.natAbs < Decimal.mantissaBound) :
    toDecimal precision scale (.string (toString n)) = toDecimal precision scale value := by
  obtain ⟨d, found, _⟩ := Decimal.exists_ofInt? small
  apply toDecimal_eq (isInteger.trans found)
  rw [(Numerals.int n).trim_eq, Decimal.read?_toString small, found]

/-- The text of a decimal is stored like the decimal, unless it is a zero with a
sign. -/
theorem toDecimal_text (precision scale : UInt32) {d : Decimal}
    (signless : d.mantissa = 0 → d.negative = false) :
    toDecimal precision scale (.string d.text) = toDecimal precision scale (.decimal d) := by
  have isDecimal : decimalOf? (.decimal d) = some d := rfl
  apply toDecimal_eq isDecimal
  rw [(Numerals.decimal d).trim_eq, Decimal.read?_text, Decimal.unsignedZero_eq_self signless]

/-- The text of a date is stored as that date. -/
theorem toDate_text (d : Date) : toDate (.string d.text) = .ok (.date d) := by
  rw [toDate, Date.text, String.toList_ofList, (Numerals.date d).trim_eq, Date.read?_chars]

/-- The one blank in a date and time is not at an end. -/
theorem trim_dateTime (moment : DateTime) :
    trim (moment.date.chars ++ ' ' :: moment.time.chars) =
      moment.date.chars ++ ' ' :: moment.time.chars := by
  have someDate : moment.date.chars ≠ [] := by simp [Date.chars]
  have someTime : moment.time.chars ≠ [] := by simp [Time.chars]
  apply trim_eq_self
  · intro c first
    rw [List.head?_append_of_ne_nil _ someDate] at first
    exact isBlank_of_isNumeral (Numerals.date moment.date c (List.mem_of_mem_head? first))
  · intro c last
    rw [List.append_cons, List.getLast?_append_of_ne_nil _ someTime] at last
    exact isBlank_of_isNumeral (Numerals.time moment.time c (List.mem_of_mem_getLast? last))

/-- The text of a moment is stored as that moment. -/
theorem toDateTime_text (moment : DateTime) :
    toDateTime (.string (moment.text ' ')) = .ok (.dateTime moment) := by
  rw [toDateTime, DateTime.text, String.toList_ofList, trim_dateTime, DateTime.read?_chars]

/-- Integers of 64 bits are integers of 128 bits and decimals. -/
theorem bounds_int64 (n : Int64) : minInt128 ≤ n.toInt ∧ n.toInt ≤ maxInt128 ∧
    n.toInt.natAbs < Decimal.mantissaBound := by
  have lower := n.le_toInt
  have upper := n.toInt_lt
  have least : minInt128 ≤ -9223372036854775808 := by decide
  have greatest : 18446744073709551615 ≤ maxInt128 := by decide
  have bound : Decimal.mantissaBound = 79228162514264337593543950336 := rfl
  omega

theorem bounds_uint64 (n : UInt64) : minInt128 ≤ (n.toNat : Int) ∧ (n.toNat : Int) ≤ maxInt128 ∧
    (n.toNat : Int).natAbs < Decimal.mantissaBound := by
  have upper := n.toNat_lt
  have least : minInt128 ≤ -9223372036854775808 := by decide
  have greatest : 18446744073709551615 ≤ maxInt128 := by decide
  have bound : Decimal.mantissaBound = 79228162514264337593543950336 := rfl
  omega

/-- A scalar column treats a value and its text alike. -/
theorem toScalar_plainText {type : Scalar} {value : Value} (hasText : HasText type value) :
    toScalar type (.string value.plainText) = toScalar type value := by
  cases hasText with
  | integerOfInt type n =>
      obtain ⟨lower, upper, _⟩ := bounds_int64 n
      rw [Value.plainText_int, toScalar, toScalar]
      exact toInteger_toString type (.int n) rfl lower upper
  | integerOfUInt type n =>
      obtain ⟨lower, upper, _⟩ := bounds_uint64 n
      rw [Value.plainText_uint, toScalar, toScalar]
      exact toInteger_toString type (.uint n) rfl lower upper
  | decimalOfInt precision scale n =>
      obtain ⟨_, _, small⟩ := bounds_int64 n
      rw [Value.plainText_int, toScalar, toScalar]
      exact toDecimal_toString precision scale (.int n) rfl small
  | decimalOfUInt precision scale n =>
      obtain ⟨_, _, small⟩ := bounds_uint64 n
      rw [Value.plainText_uint, toScalar, toScalar]
      exact toDecimal_toString precision scale (.uint n) rfl small
  | decimal precision scale signless => exact toDecimal_text precision scale signless
  | date d =>
      rw [Value.plainText_date]
      exact toDate_text d
  | date32 d =>
      rw [Value.plainText_date]
      exact toDate_text d
  | dateTime timezone moment =>
      rw [Value.plainText_dateTime]
      exact toDateTime_text moment
  | dateTime64 precision timezone moment =>
      rw [Value.plainText_dateTime]
      exact toDateTime_text moment

end Coercion

namespace ColumnType

open Coercion

theorem coerce_scalar {type : Scalar} {value : Value} (notNull : value ≠ .null) :
    (scalar type).coerce value = toScalar type value := by
  cases value <;> simp_all [coerce]

/-- A column of integers, decimals, dates or times takes the text of a value as
the value itself, with the same result or the same fault. -/
theorem coerce_plainText {type : Scalar} {value : Value} (hasText : HasText type value) :
    (scalar type).coerce (.string value.plainText) = (scalar type).coerce value := by
  have notNull : value ≠ .null := by
    rintro rfl
    cases hasText
  rw [coerce_scalar (by simp), coerce_scalar notNull]
  exact toScalar_plainText hasText

/-- A leap second with a fraction, in a year before the year zero. -/
def leapMoment : DateTime :=
  ⟨⟨-44, 3, 15, by decide⟩, ⟨21, 57, 60, 250000, by decide, by decide, by decide, by decide⟩⟩

/-- A leap second is stored from its text, and a number out of range is refused
in both forms with the same fault. -/
theorem coerce_plainText_leapMoment :
    (scalar (.dateTime64 6 none)).coerce (.string "-0044-03-15 21:57:60.000250") =
        .ok (.dateTime leapMoment) ∧
      (scalar (.integer .int8)).coerce (.string "-300") =
        .error (.outOfRange (-300) (.scalar (.integer .int8))) := by
  have moment : (Value.dateTime leapMoment).plainText = "-0044-03-15 21:57:60.000250" := by decide
  have number : (Value.int (-300)).plainText = "-300" := by decide
  constructor
  · rw [← moment, coerce_plainText (.dateTime64 6 none leapMoment)]
    rfl
  · rw [← number, coerce_plainText (.integerOfInt .int8 (-300))]
    rfl

end ColumnType

end ColumnarSql
