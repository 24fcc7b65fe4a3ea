/-
Module: ColumnarSql.Proofs.ValueTexts
Purpose: Decimals, dates and times are read back from their texts.
Main exports:
  Decimal.unsignedZero, Decimal.read?_text, Date.readLoose?_text,
  DateTime.readLoose?_text
-/
import ColumnarSql.Calendar.Printer
import ColumnarSql.Calendar.Reader
import ColumnarSql.Decimal.Reader
import ColumnarSql.Proofs.CharacterRuns
import ColumnarSql.Proofs.DigitStrings
import Mathlib.Tactic.Ring

namespace ColumnarSql

open Text

/-! ### Decimals -/

namespace Decimal

/-- The sign of a zero is not read from its text. -/
def unsignedZero (d : Decimal) : Decimal :=
  { d with negative := d.negative && d.mantissa != 0 }

/-- Without the sign of its zero, a decimal is the same number. -/
theorem sameNumber_unsignedZero (d : Decimal) : d.sameNumber d.unsignedZero = true := by
  cases zero : d.mantissa == 0 <;> simp_all [sameNumber, unsignedZero]

/-- A decimal that is no signed zero is kept as it is. -/
theorem unsignedZero_eq_self {d : Decimal} (signless : d.mantissa = 0 → d.negative = false) :
    d.unsignedZero = d := by
  have sign : (d.negative && d.mantissa != 0) = d.negative := by
    by_cases zero : d.mantissa = 0
    · rw [signless zero, Bool.false_and]
    · rw [bne_iff_ne.mpr zero, Bool.and_true]
  rw [unsignedZero, sign]

/-- How far a number has been read after some more digits. -/
def Progress.after (p : Progress) (digits : List Char) : Progress :=
  { p with
    mantissa := p.mantissa * 10 ^ digits.length + digitsValue digits
    scale := if p.afterPoint then p.scale + digits.length else p.scale
    hasDigits := p.hasDigits || !digits.isEmpty }

theorem Progress.after_nil (p : Progress) : p.after [] = p := by
  cases p
  simp [after, digitsValue]

/-- Digits are read one at a time. -/
theorem Progress.after_cons (p : Progress) (c : Char) (digits : List Char) :
    p.after (c :: digits) = (p.push (c.toNat - '0'.toNat)).after digits := by
  have value : p.mantissa * 10 ^ (digits.length + 1) + digitsValue (c :: digits) =
      (p.mantissa * 10 + (c.toNat - '0'.toNat)) * 10 ^ digits.length + digitsValue digits := by
    rw [digitsValue_cons]
    ring
  cases point : p.afterPoint <;>
    simp [after, push, point, value, Nat.add_assoc, Nat.add_comm 1]

/-- Digits are taken as long as there is room for them. -/
theorem readBody_digits (negative : Bool) {p : Progress} {digits : List Char} (rest : List Char)
    (areDigits : ∀ c ∈ digits, c.isDigit = true) (room : (p.after digits).mantissa < mantissaBound)
    (places : p.afterPoint = true → p.scale + digits.length ≤ maxScale) :
    readBody negative p (digits ++ rest) = readBody negative (p.after digits) rest := by
  induction digits generalizing p with
  | nil => rw [List.nil_append, Progress.after_nil]
  | cons c digits inductionHypothesis =>
      have digit := areDigits c (by simp)
      rw [Progress.after_cons] at room ⊢
      have placeLeft : (p.afterPoint && decide (maxScale ≤ p.scale)) = false := by
        cases point : p.afterPoint with
        | false => rfl
        | true =>
            have := places point
            rw [List.length_cons] at this
            rw [Bool.true_and, decide_eq_false_iff_not]
            omega
      have roomLeft : ¬ mantissaBound ≤ p.mantissa * 10 + (c.toNat - '0'.toNat) := by
        rw [Nat.not_le]
        refine Nat.lt_of_le_of_lt ?_ room
        exact (Nat.le_mul_of_pos_right _ (Nat.pow_pos (by decide))).trans (Nat.le_add_right _ _)
      rw [List.cons_append, readBody, placeLeft, if_neg Bool.false_ne_true, if_pos digit,
        if_neg roomLeft]
      apply inductionHypothesis (fun d member => areDigits d (by simp [member])) room
      intro (point : p.afterPoint = true)
      have := places point
      rw [List.length_cons] at this
      simp only [Progress.push, point, if_true]
      omega

/-- The digits before the point and those after it. -/
theorem readBody_point (negative : Bool) {whole fraction : List Char} (nonempty : whole ≠ [])
    (wholeDigits : ∀ c ∈ whole, c.isDigit = true)
    (fractionDigits : ∀ c ∈ fraction, c.isDigit = true)
    (room : digitsValue (whole ++ fraction) < mantissaBound) (places : fraction.length ≤ maxScale) :
    readBody negative ⟨0, 0, false, false⟩ (whole ++ '.' :: fraction) =
      ofParts? negative (digitsValue (whole ++ fraction)) fraction.length := by
  have roomBefore : digitsValue whole < mantissaBound := by
    refine Nat.lt_of_le_of_lt ?_ room
    rw [digitsValue_append]
    exact (Nat.le_mul_of_pos_right _ (Nat.pow_pos (by decide))).trans (Nat.le_add_right _ _)
  have before : (⟨0, 0, false, false⟩ : Progress).after whole =
      ⟨digitsValue whole, 0, false, true⟩ := by
    simp [Progress.after, nonempty]
  have after : (⟨digitsValue whole, 0, true, true⟩ : Progress).after fraction =
      ⟨digitsValue (whole ++ fraction), fraction.length, true, true⟩ := by
    simp [Progress.after, digitsValue_append]
  rw [readBody_digits negative _ wholeDigits (by rw [before]; exact roomBefore) (by simp), before]
  have point : readBody negative ⟨digitsValue whole, 0, false, true⟩ ('.' :: fraction) =
      readBody negative ⟨digitsValue whole, 0, true, true⟩ (fraction ++ []) := by
    rw [List.append_nil]
    rfl
  rw [point, readBody_digits negative _ fractionDigits (by rw [after]; exact room)
    (fun _ => by simpa using places), after]
  rfl

/-- A number without a point. -/
theorem readBody_whole (negative : Bool) {whole : List Char} (nonempty : whole ≠ [])
    (digits : ∀ c ∈ whole, c.isDigit = true) (room : digitsValue whole < mantissaBound) :
    readBody negative ⟨0, 0, false, false⟩ whole = ofParts? negative (digitsValue whole) 0 := by
  have before : (⟨0, 0, false, false⟩ : Progress).after whole =
      ⟨digitsValue whole, 0, false, true⟩ := by
    simp [Progress.after, nonempty]
  have read := readBody_digits negative [] digits (by rw [before]; exact room) (by simp)
  rw [List.append_nil, before] at read
  exact read

/-- The text of a magnitude. -/
def magnitudeText (d : Decimal) : List Char :=
  let digits := padded (d.scale + 1) d.mantissa
  let whole := digits.take (digits.length - d.scale)
  if d.scale == 0 then whole else whole ++ '.' :: digits.drop (digits.length - d.scale)

/-- A decimal is written as its magnitude, behind a minus sign if it is
negative. -/
theorem toList_text (d : Decimal) :
    d.text.toList = if d.negative then '-' :: d.magnitudeText else d.magnitudeText :=
  String.toList_ofList

/-- The magnitude is read back with its scale. -/
theorem readBody_magnitudeText (negative : Bool) (d : Decimal) :
    readBody negative ⟨0, 0, false, false⟩ d.magnitudeText =
      ofParts? negative d.mantissa d.scale := by
  have long : d.scale < (padded (d.scale + 1) d.mantissa).length := by
    simp only [padded, List.length_append, List.length_replicate]
    omega
  have digits : ∀ c ∈ padded (d.scale + 1) d.mantissa, c.isDigit = true :=
    fun c => isDigit_of_mem_padded
  have value := digitsValue_padded (d.scale + 1) d.mantissa
  simp only [magnitudeText]
  generalize padded (d.scale + 1) d.mantissa = text at long digits value ⊢
  have nonempty : text.take (text.length - d.scale) ≠ [] := by
    rw [← List.length_pos_iff, List.length_take]
    omega
  have places : (text.drop (text.length - d.scale)).length = d.scale := by
    rw [List.length_drop]
    omega
  have joined := List.take_append_drop (text.length - d.scale) text
  split
  · rename_i integral
    have noScale : d.scale = 0 := beq_iff_eq.mp integral
    rw [noScale, Nat.sub_zero, List.take_length, ← value]
    apply readBody_whole negative (List.ne_nil_of_length_pos (by omega)) digits
    rw [value]
    exact d.mantissa_lt
  · rw [readBody_point negative nonempty (fun c member => digits c (List.mem_of_mem_take member))
      (fun c member => digits c (List.mem_of_mem_drop member))
      (by rw [joined, value]; exact d.mantissa_lt) (by rw [places]; exact d.scale_le),
      joined, value, places]

/-- What is read without a sign needs none. -/
theorem readPositional?_of_readBody {s : List Char} {d : Decimal}
    (read : readBody false ⟨0, 0, false, false⟩ s = some d) : readPositional? s = some d := by
  rw [readPositional?.eq_def]
  split
  · simp [readBody] at read
  · simp [readBody] at read
  · exact read

/-- A decimal is read back from its text, but for the sign of a zero. -/
theorem read?_text (d : Decimal) : read? d.text.toList = some d.unsignedZero := by
  have read : readBody d.negative ⟨0, 0, false, false⟩ d.magnitudeText = some d.unsignedZero := by
    rw [readBody_magnitudeText, ofParts?, dif_pos d.mantissa_lt, dif_pos d.scale_le]
    rfl
  have positional : readPositional? d.text.toList = some d.unsignedZero := by
    rw [toList_text]
    cases sign : d.negative with
    | true =>
        rw [sign] at read
        exact read
    | false =>
        rw [sign] at read
        exact readPositional?_of_readBody read
  rw [read?, positional]
  rfl

end Decimal

/-! ### Dates and times -/

namespace Calendar

/-- A run of digits that is short enough is taken as a whole. -/
theorem takeNumber_run {width : Nat} {digits rest : List Char} (nonempty : digits ≠ [])
    (areDigits : ∀ c ∈ digits, c.isDigit = true) (short : digits.length ≤ width)
    (stops : ∀ c ∈ rest.head?, c.isDigit = false) :
    takeNumber width (digits ++ rest) = some (digitsValue digits, rest) := by
  simp [takeNumber, takeWhile_run areDigits stops, List.take_of_length_le short, nonempty]

theorem trimStart_run {digits rest : List Char} (nonempty : digits ≠ [])
    (areDigits : ∀ c ∈ digits, c.isDigit = true) : trimStart (digits ++ rest) = digits ++ rest := by
  cases digits with
  | nil => exact absurd rfl nonempty
  | cons c digits =>
      have solid := isBlank_of_isWordChar (isWordChar_of_isDigit (areDigits c (by simp)))
      simp [trimStart, solid]

/-- A field of two digits is read back. -/
theorem takeField_padded {n : Nat} (small : n < 100) {rest : List Char}
    (stops : ∀ c ∈ rest.head?, c.isDigit = false) :
    takeField (padded 2 n ++ rest) = some (n, rest) := by
  have digits : ∀ c ∈ padded 2 n, c.isDigit = true := fun c => isDigit_of_mem_padded
  rw [takeField, trimStart_run (padded_ne_nil 2 n) digits,
    takeNumber_run (padded_ne_nil 2 n) digits (Nat.le_of_eq (length_padded (by decide) small)) stops,
    digitsValue_padded]

theorem takeMark_self (loose : Bool) {mark : Char} (solid : isBlank mark = false)
    (rest : List Char) : takeMark loose mark (mark :: rest) = some rest := by
  cases loose <;> simp [takeMark, trimStart, solid]

/-- A year is read back, also a negative one or one with more than four
digits. -/
theorem takeYear_yearText (year : Int) {rest : List Char}
    (stops : ∀ c ∈ rest.head?, c.isDigit = false) :
    takeYear (Date.yearText year ++ rest) = some (year, rest) := by
  have digits : ∀ c ∈ padded 4 year.natAbs, c.isDigit = true := fun c => isDigit_of_mem_padded
  have nonempty := padded_ne_nil 4 year.natAbs
  have signed : takeNumber (padded 4 year.natAbs ++ rest).length (padded 4 year.natAbs ++ rest) =
      some (year.natAbs, rest) := by
    rw [takeNumber_run nonempty digits (by simp) stops, digitsValue_padded]
  simp only [Date.yearText]
  split
  · have minus : trimStart ('-' :: padded 4 year.natAbs ++ rest) =
        '-' :: (padded 4 year.natAbs ++ rest) := rfl
    simp only [takeYear, minus, signed, Option.map_some]
    congr 2
    omega
  · split
    · have plus : trimStart ('+' :: padded 4 year.natAbs ++ rest) =
          '+' :: (padded 4 year.natAbs ++ rest) := rfl
      simp only [takeYear, plus, signed, Option.map_some]
      congr 2
      omega
    · have fits : year.natAbs < 10 ^ 4 := by omega
      have length := length_padded (by decide) fits
      have taken : takeNumber 4 (padded 4 year.natAbs ++ rest) = some (year.natAbs, rest) := by
        rw [takeNumber_run nonempty digits (Nat.le_of_eq length) stops, digitsValue_padded]
      obtain ⟨c, tail, written⟩ := List.exists_cons_of_ne_nil nonempty
      have digit : c.isDigit = true := digits c (by simp [written])
      rw [takeYear, trimStart_run nonempty digits]
      split
      · rename_i same
        rw [written] at same
        cases same
        cases digit
      · rename_i same
        rw [written] at same
        cases same
        cases digit
      · have nonnegative : (year.natAbs : Int) = year := Int.natAbs_of_nonneg (by omega)
        simp only [taken, Option.map_some, nonnegative]

/-- A date is read from its text, whatever follows it. -/
theorem takeDate_chars (loose : Bool) (date : Date) (rest : List Char)
    (stops : ∀ c ∈ rest.head?, c.isDigit = false) :
    takeDate loose (date.chars ++ rest) = some (date, rest) := by
  have valid := date.valid
  have days : Date.daysInMonth date.year date.month ≤ 31 := by
    rw [Date.daysInMonth]
    split
    · split <;> decide
    · split <;> decide
  simp only [Date.isValid, Bool.and_eq_true, decide_eq_true_eq] at valid
  obtain ⟨⟨⟨_, month⟩, _⟩, day⟩ := valid
  have dash {tail : List Char} : ∀ c ∈ ('-' :: tail).head?, c.isDigit = false := by
    rintro c ⟨⟩
    rfl
  have mark (tail : List Char) : takeMark loose '-' ('-' :: tail) = some tail :=
    takeMark_self loose rfl tail
  have parts : Date.ofParts? date.year date.month date.day = some date := dif_pos date.valid
  have text : date.chars ++ rest = Date.yearText date.year ++
      '-' :: (padded 2 date.month ++ '-' :: (padded 2 date.day ++ rest)) := by
    simp [Date.chars]
  simp only [text, takeDate, takeYear_yearText date.year dash, mark,
    takeField_padded (show date.month < 100 by omega) dash,
    takeField_padded (show date.day < 100 by omega) stops, parts, Option.bind_eq_bind,
    Option.bind_some]
  rfl

/-- The fraction of a second in some number of digits. -/
theorem takeFraction_padded {width n : Nat} (positive : 0 < width) (places : width ≤ 9)
    (fits : n < 10 ^ width) {rest : List Char} (stops : ∀ c ∈ rest.head?, c.isDigit = false) :
    takeFraction ('.' :: padded width n ++ rest) = some (n * 10 ^ (9 - width), rest) := by
  have digits : ∀ c ∈ padded width n, c.isDigit = true := fun c => isDigit_of_mem_padded
  have length := length_padded positive fits
  have used : (padded width n).take 9 = padded width n := List.take_of_length_le (by omega)
  simp [takeFraction, takeWhile_run digits stops, dropWhile_run digits stops, padded_ne_nil,
    nanoseconds, used, length]

/-- The fraction of a second is read back, with however many digits it is
written. -/
theorem takeFraction_fractionText {nanosecond : Nat} (small : nanosecond < 1000000000)
    {rest : List Char} (stops : ∀ c ∈ rest.head?, c.isDigit = false)
    (noPoint : rest.head? ≠ some '.') :
    takeFraction (Time.fractionText nanosecond ++ rest) = some (nanosecond, rest) := by
  simp only [Time.fractionText, beq_iff_eq]
  split
  · subst nanosecond
    rw [List.nil_append, takeFraction.eq_def]
    split
    · exact absurd rfl noPoint
    · rfl
  · split
    · rw [takeFraction_padded (by decide) (by decide) (by omega) stops]
      congr 2
      omega
    · split
      · rw [takeFraction_padded (by decide) (by decide) (by omega) stops]
        congr 2
        omega
      · rw [takeFraction_padded (by decide) (by decide) (by omega) stops, Nat.sub_self,
          Nat.pow_zero, Nat.mul_one]

/-- No digit follows the seconds. -/
theorem head_fractionText (nanosecond : Nat) {rest : List Char}
    (stops : ∀ c ∈ rest.head?, c.isDigit = false) :
    ∀ c ∈ (Time.fractionText nanosecond ++ rest).head?, c.isDigit = false := by
  have point {tail : List Char} : ∀ c ∈ ('.' :: tail ++ rest).head?, c.isDigit = false := by
    rintro c ⟨⟩
    rfl
  rw [Time.fractionText]
  split
  · exact stops
  · split
    · exact point
    · split
      · exact point
      · exact point

/-- A time is read from its text. -/
theorem takeTime_chars (loose : Bool) (time : Time) (rest : List Char)
    (stops : ∀ c ∈ rest.head?, c.isDigit = false) (noPoint : rest.head? ≠ some '.') :
    takeTime loose (time.chars ++ rest) = some (time, rest) := by
  have hour := time.hour_lt
  have minute := time.minute_lt
  have second := time.second_le
  have colon {tail : List Char} : ∀ c ∈ (':' :: tail).head?, c.isDigit = false := by
    rintro c ⟨⟩
    rfl
  have mark (tail : List Char) : takeMark loose ':' (':' :: tail) = some tail :=
    takeMark_self loose rfl tail
  have point : ∀ c ∈ (Time.fractionText time.nanosecond ++ rest).head?, c.isDigit = false :=
    head_fractionText time.nanosecond stops
  have parts : Time.ofParts? time.hour time.minute time.second time.nanosecond = some time :=
    dif_pos ⟨hour, minute, second, time.nanosecond_lt⟩
  have text : time.chars ++ rest = padded 2 time.hour ++ ':' :: (padded 2 time.minute ++
      ':' :: (padded 2 time.second ++ (Time.fractionText time.nanosecond ++ rest))) := by
    simp [Time.chars]
  simp only [text, takeTime, mark, takeField_padded (show time.hour < 100 by omega) colon,
    takeField_padded (show time.minute < 100 by omega) colon,
    takeField_padded (show time.second < 100 by omega) point,
    takeFraction_fractionText time.nanosecond_lt stops noPoint, parts, Option.bind_eq_bind,
    Option.bind_some]
  rfl

end Calendar

open Calendar

/-- A date is read back from its text. -/
theorem Date.readLoose?_text (date : Date) : Date.readLoose? date.text.toList = some date := by
  have taken := takeDate_chars true date [] (by simp)
  rw [List.append_nil] at taken
  rw [Date.text, String.toList_ofList, Date.readLoose?, taken]
  rfl

/-- A date and time are read back from their text. -/
theorem DateTime.readLoose?_text (moment : DateTime) :
    DateTime.readLoose? (moment.text 'T').toList = some moment := by
  have date := takeDate_chars true moment.date ('T' :: moment.time.chars) (by
    rintro c ⟨⟩
    rfl)
  have mark : takeMark true 'T' ('T' :: moment.time.chars) = some moment.time.chars :=
    takeMark_self true rfl _
  have time := takeTime_chars true moment.time [] (by simp) (by simp)
  rw [List.append_nil] at time
  rw [DateTime.text, String.toList_ofList, DateTime.readLoose?]
  simp only [date, mark, time, Option.bind_eq_bind, Option.bind_some]
  rfl

end ColumnarSql
