/-
Module: ColumnarSql.Proofs.JsonText
Purpose: Reading the text of a JSON value gives back the value.
Main exports:
  Json.Follows, Json.Writable, Json.takeString_escaped, Json.takeNumber_float,
  Json.takeNumber_integer, Json.takeValue_compact, Json.parse?_compact
-/
import ColumnarSql.Json.Reader
import ColumnarSql.Proofs.CharacterRuns
import ColumnarSql.Proofs.DoubleText

namespace ColumnarSql.Json

open Text

/-- What may stand after a value inside an array or object, or at the end. -/
def Follows (rest : List Char) : Prop :=
  ∀ c ∈ rest.head?, c = ',' ∨ c = ']' ∨ c = '\x7d'

namespace Follows

theorem nil : Follows [] := by
  simp [Follows]

theorem comma (tail : List Char) : Follows (',' :: tail) := by
  simp [Follows]

theorem bracket (tail : List Char) : Follows (']' :: tail) := by
  simp [Follows]

theorem brace (tail : List Char) : Follows ('\x7d' :: tail) := by
  simp [Follows]

/-- What follows a value does not continue its digits. -/
theorem notDigit {rest : List Char} (follows : Follows rest) :
    ∀ c ∈ rest.head?, c.isDigit = false := by
  intro c starts
  rcases follows c starts with rfl | rfl | rfl <;> rfl

/-- What follows a value continues neither a fraction nor an exponent. -/
theorem notMark {rest : List Char} (follows : Follows rest) :
    ∀ c ∈ rest.head?, c ≠ '.' ∧ c ≠ 'e' ∧ c ≠ 'E' := by
  intro c starts
  rcases follows c starts with rfl | rfl | rfl <;> decide

end Follows

/-! ### Steps into arrays and objects

Each way of reading on is one lemma, so that the induction at the end only
divides the text and the fuel. -/

theorem skipBlanks_cons {c : Char} (solid : isSpacing c = false) (tail : List Char) :
    skipBlanks (c :: tail) = c :: tail := by
  simp [skipBlanks, solid]

/-- An array that is not empty is read as its items. -/
theorem takeValue_array {fuel depth : Nat} {c : Char} {tail rest : List Char} {items : List Json}
    (solid : isSpacing c = false) (notEnd : c ≠ ']')
    (taken : takeItems fuel depth (c :: tail) = some (items, rest)) :
    takeValue (fuel + 1) (depth + 1) ('[' :: c :: tail) = some (.array items, rest) := by
  rw [takeValue, skipBlanks_cons rfl]
  simp [skipBlanks_cons solid, notEnd, taken]

/-- An object that is not empty is read as its fields. -/
theorem takeValue_object {fuel depth : Nat} {c : Char} {tail rest : List Char}
    {fields : List (String × Json)} (solid : isSpacing c = false) (notEnd : c ≠ '\x7d')
    (taken : takeFields fuel depth (c :: tail) = some (fields, rest)) :
    takeValue (fuel + 1) (depth + 1) ('\x7b' :: c :: tail) = some (.object fields, rest) := by
  rw [takeValue, skipBlanks_cons rfl]
  simp [skipBlanks_cons solid, notEnd, taken]

/-- The last item stands before the closing bracket. -/
theorem takeItems_last {fuel depth : Nat} {s rest : List Char} {item : Json}
    (taken : takeValue fuel depth s = some (item, ']' :: rest)) :
    takeItems (fuel + 1) depth s = some ([item], rest) := by
  have mark : skipBlanks (']' :: rest) = ']' :: rest := skipBlanks_cons rfl rest
  rw [takeItems]
  simp [taken, mark]

/-- Behind a comma the items go on. -/
theorem takeItems_more {fuel depth : Nat} {s later rest : List Char} {item : Json}
    {items : List Json} (taken : takeValue fuel depth s = some (item, ',' :: later))
    (others : takeItems fuel depth later = some (items, rest)) :
    takeItems (fuel + 1) depth s = some (item :: items, rest) := by
  have mark : skipBlanks (',' :: later) = ',' :: later := skipBlanks_cons rfl later
  rw [takeItems]
  simp [taken, mark, others]

/-! ### Numbers -/

/-- The digits before the point: a zero stands only alone. -/
structure IsWhole (whole : List Char) : Prop where
  digits : isDigits whole = true
  noZero : whole.head? = some '0' → whole.length = 1

/-- The digits of a number have no leading zero. -/
theorem isWhole_digitsOf (n : Nat) : IsWhole (digitsOf n) :=
  ⟨isDigits_digitsOf n, length_digitsOf_of_head_zero⟩

/-- Without a point there is no fraction. -/
theorem takeFraction_none {rest : List Char} (noPoint : ∀ c ∈ rest.head?, c ≠ '.') :
    takeFraction rest = some ([], rest) := by
  cases rest with
  | nil => rfl
  | cons c tail =>
      rw [takeFraction]
      rintro tail' same
      cases same
      exact noPoint '.' rfl rfl

/-- Behind a point the digits are a fraction. -/
theorem takeFraction_point {fraction rest : List Char} (digits : isDigits fraction = true)
    (stops : ∀ c ∈ rest.head?, c.isDigit = false) :
    takeFraction ('.' :: (fraction ++ rest)) = some (fraction, rest) := by
  have inside := mem_of_isDigits digits
  simp [takeFraction, takeWhile_run inside stops, dropWhile_run inside stops,
    ne_nil_of_isDigits digits]

/-- Without a mark there is no exponent. -/
theorem takeExponent_none {rest : List Char} (noMark : ∀ c ∈ rest.head?, c ≠ 'e' ∧ c ≠ 'E') :
    takeExponent rest = some (none, rest) := by
  cases rest with
  | nil => rfl
  | cons c tail => simp [takeExponent, noMark c rfl]

/-- Behind a mark and a sign the digits are an exponent. -/
theorem takeExponent_signed (negative : Bool) {digits rest : List Char}
    (areDigits : isDigits digits = true) (stops : ∀ c ∈ rest.head?, c.isDigit = false) :
    takeExponent ('e' :: (if negative then '-' else '+') :: (digits ++ rest)) =
      some (some (if negative then -(digitsValue digits : Int) else digitsValue digits), rest) := by
  have inside := mem_of_isDigits areDigits
  cases negative <;>
    simp [takeExponent, takeWhile_run inside stops, dropWhile_run inside stops,
      ne_nil_of_isDigits areDigits]

theorem IsWhole.accepted {whole : List Char} (isWhole : IsWhole whole) :
    (whole.isEmpty || (whole.head? == some '0' && decide (1 < whole.length))) = false := by
  rw [Bool.or_eq_false_iff, List.isEmpty_eq_false_iff]
  refine ⟨ne_nil_of_isDigits isWhole.digits, ?_⟩
  by_cases zero : whole.head? = some '0'
  · simp [isWhole.noZero zero]
  · simp [zero]

/-- A number with a fraction or an exponent is a floating-point number. -/
theorem takeMagnitude_float (negative : Bool) {whole tail fraction later rest : List Char}
    {exponent : Option Int} (isWhole : IsWhole whole)
    (stops : ∀ c ∈ tail.head?, c.isDigit = false)
    (takesFraction : takeFraction tail = some (fraction, later))
    (takesExponent : takeExponent later = some (exponent, rest))
    (marked : (fraction.isEmpty && exponent.isNone) = false) :
    takeMagnitude negative (whole ++ tail) =
      (finite? (Double.ofScaled negative (digitsValue (whole ++ fraction))
        (exponent.getD 0 - fraction.length))).map fun json => (json, rest) := by
  have inside := mem_of_isDigits isWhole.digits
  simp only [takeMagnitude, takeWhile_run inside stops, dropWhile_run inside stops,
    isWhole.accepted, takesFraction, takesExponent, marked, Option.bind_eq_bind, Option.bind_some,
    if_false, Bool.false_eq_true]
  cases finite? (Double.ofScaled negative (digitsValue (whole ++ fraction))
    (exponent.getD 0 - fraction.length)) <;> rfl

/-- A number without them is an integer unless it is too large. -/
theorem takeMagnitude_integer (negative : Bool) (n : Nat) {rest : List Char}
    (follows : Follows rest) :
    takeMagnitude negative (digitsOf n ++ rest) =
      (ofDigits? negative n).map fun json => (json, rest) := by
  have isWhole := isWhole_digitsOf n
  have inside := mem_of_isDigits isWhole.digits
  have noFraction : takeFraction rest = some ([], rest) :=
    takeFraction_none fun c starts => (follows.notMark c starts).1
  have noExponent : takeExponent rest = some (none, rest) :=
    takeExponent_none fun c starts => (follows.notMark c starts).2
  simp only [takeMagnitude, takeWhile_run inside follows.notDigit,
    dropWhile_run inside follows.notDigit, isWhole.accepted, noFraction, noExponent,
    Option.bind_eq_bind, Option.bind_some, if_false, Bool.false_eq_true, List.isEmpty_nil,
    Option.isNone_none, Bool.and_self, if_true, digitsValue_digitsOf]
  cases ofDigits? negative n <;> rfl

/-! ### Floating-point numbers -/

theorem isDigits_of_append {s t : List Char} (nonempty : s ++ t ≠ [])
    (first : ∀ c ∈ s, c.isDigit = true) (second : ∀ c ∈ t, c.isDigit = true) :
    isDigits (s ++ t) = true := by
  refine isDigits_iff.mpr ⟨nonempty, fun c member => ?_⟩
  rcases List.mem_append.mp member with front | back
  · exact first c front
  · exact second c back

/-- The digits of a positional text, apart from its point, are those of the
number. -/
theorem positionalText_parts {n : Nat} {point : Int} (start : 0 < n ∨ point = 1) :
    ∃ whole fraction, Double.positionalText true (digitsOf n) point = whole ++ '.' :: fraction ∧
      IsWhole whole ∧ isDigits fraction = true ∧
        ∀ negative, Double.ofScaled negative (digitsValue (whole ++ fraction)) (-fraction.length) =
          Double.ofScaled negative n (point - (digitsOf n).length) := by
  have nonempty : 0 < (digitsOf n).length := List.length_pos_iff.mpr (digitsOf_ne_nil n)
  have digits : ∀ c ∈ digitsOf n, c.isDigit = true := fun c => isDigit_of_mem_digitsOf
  rw [Double.positionalText]
  split
  · -- Zeros fill the places up to the point.
    rename_i long
    obtain ⟨count, filled⟩ : ∃ count : Nat, point = (digitsOf n).length + count :=
      ⟨(point - (digitsOf n).length).toNat, by omega⟩
    have places : point.toNat - (digitsOf n).length = count := by omega
    rw [places]
    refine ⟨digitsOf n ++ List.replicate count '0', ['0'], rfl, ⟨?_, ?_⟩, rfl, ?_⟩
    · exact isDigits_of_append (by simp [digitsOf_ne_nil]) digits fun c => isDigit_of_mem_zeros
    · rw [List.head?_append_of_ne_nil _ (digitsOf_ne_nil n)]
      intro zero
      have alone := length_digitsOf_of_head_zero zero
      rcases start with positive | one
      · exact absurd zero (head_digitsOf_ne_zero positive)
      · rw [List.length_append, List.length_replicate]
        omega
    · intro negative
      have value : digitsValue (digitsOf n ++ List.replicate count '0' ++ ['0']) =
          n * 10 ^ (count + 1) := by
        rw [List.append_assoc, ← List.replicate_succ', digitsValue_append_zeros,
          digitsValue_digitsOf]
      have exponent : (-(['0'].length : Int)) = point - (digitsOf n).length - (count + 1 : Nat) := by
        rw [List.length_singleton]
        omega
      rw [value, exponent, Double.ofScaled_mul_pow]
  · rename_i short
    split
    · -- The point stands between two digits.
      rename_i inside
      have whole : ((digitsOf n).take point.toNat).length = point.toNat := by
        rw [List.length_take]
        omega
      have fraction : ((digitsOf n).drop point.toNat).length = (digitsOf n).length - point.toNat :=
        List.length_drop
      refine ⟨(digitsOf n).take point.toNat, (digitsOf n).drop point.toNat, rfl, ⟨?_, ?_⟩, ?_, ?_⟩
      · refine isDigits_iff.mpr ⟨?_, fun c member => digits c (List.mem_of_mem_take member)⟩
        rw [← List.length_pos_iff]
        omega
      · rw [List.head?_take, if_neg (by omega)]
        intro zero
        have alone := length_digitsOf_of_head_zero zero
        omega
      · refine isDigits_iff.mpr ⟨?_, fun c member => digits c (List.mem_of_mem_drop member)⟩
        rw [← List.length_pos_iff]
        omega
      · intro negative
        rw [List.take_append_drop, digitsValue_digitsOf, fraction]
        congr 1
        omega
    · -- Zeros stand between the point and the digits.
      rename_i before
      refine ⟨['0'], List.replicate (-point).toNat '0' ++ digitsOf n, rfl, ⟨rfl, fun _ => rfl⟩,
        ?_, ?_⟩
      · exact isDigits_of_append (by simp [digitsOf_ne_nil]) (fun c => isDigit_of_mem_zeros) digits
      · intro negative
        have value : digitsValue (['0'] ++ (List.replicate (-point).toNat '0' ++ digitsOf n)) =
            n := by
          rw [← List.append_assoc]
          exact (digitsValue_zeros_append ((-point).toNat + 1) _).trans (digitsValue_digitsOf n)
        rw [value, List.length_append, List.length_replicate]
        congr 1
        omega

/-- A scientific text writes its digits and their exponent. -/
theorem takeMagnitude_scientificText (negative : Bool) (n : Nat) (exponent : Int)
    {rest : List Char} (follows : Follows rest) :
    takeMagnitude negative (Double.scientificText true (digitsOf n) exponent ++ rest) =
      (finite? (Double.ofScaled negative n (exponent + 1 - (digitsOf n).length))).map
        fun json => (json, rest) := by
  let power := 'e' :: (if exponent < 0 then '-' else '+') :: (digitsOf exponent.natAbs ++ rest)
  have takesPower : takeExponent power = some (some exponent, rest) := by
    have taken := takeExponent_signed (exponent < 0) (isDigits_digitsOf exponent.natAbs)
      follows.notDigit
    simp only [decide_eq_true_eq, digitsValue_digitsOf] at taken
    rw [taken]
    congr 3
    split <;> omega
  have powerStops : ∀ c ∈ power.head?, c.isDigit = false := by
    rintro c ⟨⟩
    rfl
  obtain ⟨first, more, written⟩ := List.exists_cons_of_ne_nil (digitsOf_ne_nil n)
  have digits : ∀ c ∈ first :: more, c.isDigit = true := by
    rw [← written]
    exact fun c => isDigit_of_mem_digitsOf
  have isWhole : IsWhole [first] :=
    ⟨isDigits_iff.mpr ⟨by simp, fun c member => digits c (by simp_all)⟩, fun _ => rfl⟩
  have value : digitsValue ([first] ++ more) = n := by
    rw [List.singleton_append, ← written, digitsValue_digitsOf]
  have length : (digitsOf n).length = more.length + 1 := by
    rw [written, List.length_cons]
  have text : Double.scientificText true (digitsOf n) exponent ++ rest =
      [first] ++ ((if more.isEmpty then [] else '.' :: more) ++ power) := by
    rw [written]
    cases more <;> by_cases below : exponent < 0 <;> simp [Double.scientificText, power, below]
  have shift : exponent + 1 - ((digitsOf n).length : Int) = exponent - more.length := by
    omega
  rw [text, shift]
  cases more with
  | nil =>
      have taken := takeMagnitude_float negative isWhole powerStops
        (takeFraction_none (by rintro c ⟨⟩; decide)) takesPower rfl
      rw [value] at taken
      exact taken
  | cons next others =>
      have fraction : isDigits (next :: others) = true :=
        isDigits_iff.mpr ⟨by simp, fun c member => digits c (List.mem_cons_of_mem _ member)⟩
      have taken := takeMagnitude_float negative isWhole (by rintro c ⟨⟩; rfl)
        (takeFraction_point fraction powerStops) takesPower rfl
      rw [value] at taken
      exact taken

/-- A finite number is read back from its text. -/
theorem takeMagnitude_layout (negative : Bool) {rank : Nat} (finite : rank < Double.infinityRank)
    {rest : List Char} (follows : Follows rest) :
    takeMagnitude negative (Double.Layout.json.magnitude rank ++ rest) =
      some (.float (.number negative ⟨rank, Nat.lt_succ_of_lt finite⟩), rest) := by
  have read := Double.ofScaled_shortest finite Double.Layout.json.ties negative
  have kept : finite? (.number negative ⟨rank, Nat.lt_succ_of_lt finite⟩) =
      some (.float (.number negative ⟨rank, Nat.lt_succ_of_lt finite⟩)) := by
    simp [finite?, Double.isFinite, finite]
  simp only [Double.Layout.magnitude]
  generalize found : Double.shortest Double.Layout.json.ties rank = decimal at read
  split
  · rename_i positional
    have start : 0 < decimal.digits ∨ (digitsOf decimal.digits).length + decimal.exponent = 1 := by
      rcases Nat.eq_zero_or_pos rank with rfl | positive
      · right
        rw [← found]
        rfl
      · left
        rw [← found]
        exact Double.shortest_digits_pos finite positive _
    obtain ⟨whole, fraction, text, isWhole, digits, value⟩ := positionalText_parts start
    have taken := takeMagnitude_float negative isWhole (by rintro c ⟨⟩; rfl)
      (takeFraction_point digits follows.notDigit)
      (takeExponent_none fun c starts => (follows.notMark c starts).2)
      (by simp [ne_nil_of_isDigits digits])
    have exponent : (digitsOf decimal.digits).length + decimal.exponent -
        ((digitsOf decimal.digits).length : Int) = decimal.exponent := by omega
    rw [Option.getD_none, Int.zero_sub, value, exponent, read, kept] at taken
    rw [← List.cons_append, ← List.append_assoc, ← text] at taken
    exact taken
  · have exponent : (digitsOf decimal.digits).length + decimal.exponent - 1 + 1 -
        ((digitsOf decimal.digits).length : Int) = decimal.exponent := by omega
    have taken := takeMagnitude_scientificText negative decimal.digits
      ((digitsOf decimal.digits).length + decimal.exponent - 1) follows
    rw [exponent, read, kept] at taken
    exact taken

/-- A magnitude starts with a digit. -/
theorem head_of_takeMagnitude {negative : Bool} {s : List Char} {read : Json × List Char}
    (taken : takeMagnitude negative s = some read) : ∃ c tail, s = c :: tail ∧ c.isDigit = true := by
  cases s with
  | nil => simp [takeMagnitude] at taken
  | cons c tail =>
      refine ⟨c, tail, rfl, ?_⟩
      by_contra noDigit
      simp [takeMagnitude, noDigit] at taken

/-- A number without a sign is read as its magnitude. -/
theorem takeNumber_of_takeMagnitude {s : List Char} {read : Json × List Char}
    (taken : takeMagnitude false s = some read) : takeNumber s = some read := by
  obtain ⟨c, tail, rfl, digit⟩ := head_of_takeMagnitude taken
  rw [takeNumber]
  · exact taken
  · rintro rest same
    cases same
    cases digit

/-- A number starts with a minus sign or a digit. -/
theorem head_of_takeNumber {s : List Char} {read : Json × List Char}
    (taken : takeNumber s = some read) :
    ∃ c tail, s = c :: tail ∧ (c = '-' ∨ c.isDigit = true) := by
  rw [takeNumber.eq_def] at taken
  split at taken
  · exact ⟨'-', _, rfl, .inl rfl⟩
  · obtain ⟨c, tail, same, digit⟩ := head_of_takeMagnitude taken
    exact ⟨c, tail, same, .inr digit⟩

/-- A finite double is read back from its text. -/
theorem takeNumber_float {x : Double} (finite : x.isFinite = true) {rest : List Char}
    (follows : Follows rest) :
    takeNumber ((floatText x).toList ++ rest) = some (.float x, rest) := by
  cases x with
  | nan => cases finite
  | number negative rank =>
      have below : rank.val < Double.infinityRank := of_decide_eq_true finite
      have taken := takeMagnitude_layout negative below follows
      rw [floatText, if_pos finite, Double.Layout.write]
      simp only [Nat.not_le.mpr below, if_false, String.toList_ofList]
      cases negative with
      | false => exact takeNumber_of_takeMagnitude taken
      | true => exact taken

/-- An integer within the range of the format is read back from its text. -/
theorem takeNumber_integer {n : Int} (least : -(Int.pow 2 63) ≤ n) (bound : n < Int.pow 2 64)
    {rest : List Char} (follows : Follows rest) :
    takeNumber ((toString n).toList ++ rest) = some (.integer n, rest) := by
  have signed : Int.pow 2 63 = 9223372036854775808 := rfl
  have unsigned : Int.pow 2 64 = 18446744073709551616 := rfl
  have signedNat : Nat.pow 2 63 = 9223372036854775808 := rfl
  have unsignedNat : Nat.pow 2 64 = 18446744073709551616 := rfl
  cases n with
  | ofNat n =>
      have small : n < Nat.pow 2 64 := by
        rw [Int.ofNat_eq_natCast] at bound
        omega
      have taken := takeMagnitude_integer false n follows
      rw [ofDigits?, if_neg Bool.false_ne_true, if_pos small] at taken
      have text : (toString (Int.ofNat n)).toList = digitsOf n := toList_toString_nat n
      rw [text]
      exact takeNumber_of_takeMagnitude taken
  | negSucc n =>
      have small : n + 1 ≤ Nat.pow 2 63 := by omega
      have taken := takeMagnitude_integer true (n + 1) follows
      rw [ofDigits?, if_pos rfl, if_neg (by simp), if_pos small] at taken
      rw [toList_toString_negSucc]
      exact taken

/-! ### Strings -/

/-- A hexadecimal digit is read back. -/
theorem hexValue?_digitChar : ∀ n < 16, hexValue? (Nat.digitChar n) = some n := by
  decide

/-- A control character is written by its code. -/
theorem takeCodePoint_control {c : Char} (control : c.toNat < 32) (tail : List Char) :
    takeCodePoint ('0' :: '0' :: (if c.toNat < 16 then '0' else '1') ::
      (Nat.toDigits 16 (c.toNat % 16) ++ tail)) = some (c, tail) := by
  have low : c.toNat % 16 < 16 := Nat.mod_lt _ (by decide)
  have units := hexValue?_digitChar _ low
  have zero : hexValue? '0' = some 0 := rfl
  have tens : hexValue? (if c.toNat < 16 then '0' else '1') = some (c.toNat / 16) := by
    split
    · rename_i small
      rw [Nat.div_eq_of_lt small]
      rfl
    · have : c.toNat / 16 = 1 := by omega
      rw [this]
      rfl
  have unit : takeHex 4 0 ('0' :: '0' :: (if c.toNat < 16 then '0' else '1') ::
      (Nat.toDigits 16 (c.toNat % 16) ++ tail)) = some (c.toNat, tail) := by
    rw [Nat.toDigits_of_lt_base low]
    simp only [takeHex, zero, tens, units, List.cons_append, List.nil_append]
    congr 2
    omega
  have noSurrogate : ¬ 0xD800 ≤ c.toNat ∧ ¬ 0xDC00 ≤ c.toNat := by omega
  simp [takeCodePoint, unit, noSurrogate, Char.ofNat_toNat]

/-- A character is written as a backslash and a letter, by its code or as it
is. -/
theorem escapeChar_cases (c : Char) :
    (∃ letter, escapeChar c = ['\\', letter] ∧ letter ≠ 'u' ∧ escapedChar? letter = some c) ∨
      (c.toNat < 32 ∧ escapeChar c = '\\' :: 'u' :: '0' :: '0' ::
        (if c.toNat < 16 then '0' else '1') :: Nat.toDigits 16 (c.toNat % 16)) ∨
      (escapeChar c = [c] ∧ c ≠ '"' ∧ c ≠ '\\' ∧ ¬ c.toNat < 32) := by
  by_cases quote : c = '"'
  · subst c
    exact .inl ⟨'"', rfl, by decide, rfl⟩
  by_cases backslash : c = '\\'
  · subst c
    exact .inl ⟨'\\', rfl, by decide, rfl⟩
  by_cases backspace : c = '\x08'
  · subst c
    exact .inl ⟨'b', rfl, by decide, rfl⟩
  by_cases formFeed : c = '\x0c'
  · subst c
    exact .inl ⟨'f', rfl, by decide, rfl⟩
  by_cases lineFeed : c = '\n'
  · subst c
    exact .inl ⟨'n', rfl, by decide, rfl⟩
  by_cases carriageReturn : c = '\r'
  · subst c
    exact .inl ⟨'r', rfl, by decide, rfl⟩
  by_cases tab : c = '\t'
  · subst c
    exact .inl ⟨'t', rfl, by decide, rfl⟩
  have unnamed : escapeChar c =
      if c.toNat < 32 then
        ['\\', 'u', '0', '0', if c.toNat < 16 then '0' else '1'] ++ Nat.toDigits 16 (c.toNat % 16)
      else [c] := by
    simp only [escapeChar, beq_iff_eq, quote, backslash, backspace, formFeed, lineFeed,
      carriageReturn, tab, if_false]
  by_cases control : c.toNat < 32
  · rw [unnamed, if_pos control]
    exact .inr (.inl ⟨control, rfl⟩)
  · rw [unnamed, if_neg control]
    exact .inr (.inr ⟨rfl, quote, backslash, control⟩)

/-- What is written for a character is read as that character. -/
theorem takeString_escapeChar {fuel : Nat} {tail text rest : List Char}
    (read : takeString fuel tail = some (text, rest)) (c : Char) :
    takeString (fuel + 1) (escapeChar c ++ tail) = some (c :: text, rest) := by
  rcases escapeChar_cases c with ⟨letter, written, notCode, found⟩ | ⟨control, written⟩ |
    ⟨written, notQuote, notBackslash, printable⟩
  · simp [written, takeString, found, read]
  · simp [written, takeString, takeCodePoint_control control, read]
  · simp [written, takeString, notBackslash, printable, read]

/-- A string is read back from its characters between quotes. -/
theorem takeString_escaped (text rest : List Char) {fuel : Nat} (enough : text.length < fuel) :
    takeString fuel (text.flatMap escapeChar ++ '"' :: rest) = some (text, rest) := by
  induction text generalizing fuel with
  | nil =>
      obtain ⟨left, rfl⟩ := Nat.exists_eq_add_of_lt enough
      rfl
  | cons c text inductionHypothesis =>
      obtain ⟨left, rfl⟩ : ∃ left, fuel = left + 1 := ⟨fuel - 1, by omega⟩
      rw [List.flatMap_cons, List.append_assoc]
      exact takeString_escapeChar (inductionHypothesis (Nat.lt_of_succ_lt_succ enough)) c

/-- Escaping never makes a text shorter, so its length is enough fuel. -/
theorem length_le_flatMap_escapeChar (text : List Char) :
    text.length ≤ (text.flatMap escapeChar).length := by
  induction text with
  | nil => exact Nat.le_refl 0
  | cons c text inductionHypothesis =>
      have written : 0 < (escapeChar c).length := by
        rcases escapeChar_cases c with ⟨letter, written, _⟩ | ⟨_, written⟩ | ⟨written, _⟩ <;>
          simp [written]
      rw [List.flatMap_cons, List.length_append, List.length_cons]
      omega

/-- The text that remains is enough fuel. -/
theorem takeString_text (s : String) (rest : List Char) :
    takeString ((s.toList.flatMap escapeChar ++ '"' :: rest).length + 1)
      (s.toList.flatMap escapeChar ++ '"' :: rest) = some (s.toList, rest) := by
  apply takeString_escaped
  have := length_le_flatMap_escapeChar s.toList
  rw [List.length_append]
  omega

/-! ### Values -/

mutual

/-- Numbers of the value fit their formats. -/
def Writable : Json → Prop
  | .integer n => -(Int.pow 2 63) ≤ n ∧ n < Int.pow 2 64
  | .float x => x.isFinite = true
  | .array items => ItemsWritable items
  | .object fields => FieldsWritable fields
  | .null => True
  | .bool _ => True
  | .string _ => True

/-- Itemwise `Writable`. -/
def ItemsWritable : List Json → Prop
  | [] => True
  | item :: rest => Writable item ∧ ItemsWritable rest

/-- Fieldwise `Writable`. -/
def FieldsWritable : List (String × Json) → Prop
  | [] => True
  | (_, value) :: rest => Writable value ∧ FieldsWritable rest

end

/-- A string is written as its escaped characters between quotes. -/
theorem toList_stringText (s : String) :
    (stringText s).toList = '"' :: (s.toList.flatMap escapeChar ++ ['"']) := by
  rw [stringText, String.toList_ofList, List.cons_append]

/-- What is read as a number is read as a value, since no other value starts
so. -/
theorem takeValue_of_takeNumber {s : List Char} {read : Json × List Char}
    (taken : takeNumber s = some read) (fuel depth : Nat) :
    takeValue (fuel + 1) depth s = some read := by
  obtain ⟨c, tail, rfl, start⟩ := head_of_takeNumber taken
  have solid : isSpacing c = false := by
    rcases start with rfl | digit
    · rfl
    · exact isSpacing_of_isWordChar (isWordChar_of_isDigit digit)
  have noOther : c ≠ '[' ∧ c ≠ '\x7b' ∧ c ≠ '"' := by
    rcases start with rfl | digit
    · decide
    · refine ⟨?_, ?_, ?_⟩ <;> rintro rfl <;> cases digit
  have number : (c == '-' || c.isDigit) = true := by simpa using start
  rw [takeValue, skipBlanks_cons solid]
  simp [noOther, number, taken]

/-- A string is read back from its text. -/
theorem takeValue_string (s : String) (fuel depth : Nat) (rest : List Char) :
    takeValue (fuel + 1) depth ((stringText s).toList ++ rest) = some (.string s, rest) := by
  rw [toList_stringText, List.cons_append, List.append_assoc, List.singleton_append, takeValue,
    skipBlanks_cons rfl]
  simp only [takeString_text, Option.bind_eq_bind, Option.bind_some, String.ofList_toList]
  rfl

theorem toList_compact_array (items : List Json) :
    (compact (.array items)).toList =
      '[' :: ((joinWith "," (compactItems items)).toList ++ [']']) := by
  simp [compact]

theorem toList_compact_object (fields : List (String × Json)) :
    (compact (.object fields)).toList =
      '\x7b' :: ((joinWith "," (compactFields fields)).toList ++ ['\x7d']) := by
  simp [compact]

/-- How the text of a value starts. -/
theorem head_compact {json : Json} (writable : Writable json) :
    ∃ c tail, json.compact.toList = c :: tail ∧ isSpacing c = false ∧ c ≠ ']' := by
  have ofNumber {s : List Char} {read : Json × List Char} (taken : takeNumber (s ++ []) = some read) :
      ∃ c tail, s = c :: tail ∧ isSpacing c = false ∧ c ≠ ']' := by
    obtain ⟨c, tail, same, start⟩ := head_of_takeNumber taken
    rw [List.append_nil] at same
    refine ⟨c, tail, same, ?_⟩
    rcases start with rfl | digit
    · decide
    · refine ⟨isSpacing_of_isWordChar (isWordChar_of_isDigit digit), ?_⟩
      rintro rfl
      cases digit
  cases json with
  | null => exact ⟨'n', _, rfl, by decide⟩
  | bool b => cases b <;> exact ⟨_, _, rfl, by decide⟩
  | integer n => exact ofNumber (takeNumber_integer writable.1 writable.2 Follows.nil)
  | float x => exact ofNumber (takeNumber_float writable Follows.nil)
  | string s => exact ⟨'"', _, toList_stringText s, by decide⟩
  | array items => exact ⟨'[', _, toList_compact_array items, by decide⟩
  | object fields => exact ⟨'\x7b', _, toList_compact_object fields, by decide⟩

/-- The name of a field with its colon. -/
def fieldStart (name : String) : List Char :=
  (stringText name).toList ++ [':']

theorem fieldStart_append (name : String) (s : List Char) :
    fieldStart name ++ s = '"' :: (name.toList.flatMap escapeChar ++ '"' :: ':' :: s) := by
  simp [fieldStart, toList_stringText]

/-- The last field stands before the closing brace. -/
theorem takeFields_last {fuel depth : Nat} {s rest : List Char} {value : Json} (name : String)
    (taken : takeValue fuel depth s = some (value, '\x7d' :: rest)) :
    takeFields (fuel + 1) depth (fieldStart name ++ s) = some ([(name, value)], rest) := by
  have colon : skipBlanks (':' :: s) = ':' :: s := skipBlanks_cons rfl s
  have mark : skipBlanks ('\x7d' :: rest) = '\x7d' :: rest := skipBlanks_cons rfl rest
  rw [fieldStart_append, takeFields, skipBlanks_cons rfl]
  simp only [takeString_text, Option.bind_eq_bind, Option.bind_some, colon, taken, mark,
    String.ofList_toList]

/-- Behind a comma the fields go on. -/
theorem takeFields_more {fuel depth : Nat} {s later rest : List Char} {value : Json}
    {fields : List (String × Json)} (name : String)
    (taken : takeValue fuel depth s = some (value, ',' :: later))
    (others : takeFields fuel depth later = some (fields, rest)) :
    takeFields (fuel + 1) depth (fieldStart name ++ s) = some ((name, value) :: fields, rest) := by
  have colon : skipBlanks (':' :: s) = ':' :: s := skipBlanks_cons rfl s
  have mark : skipBlanks (',' :: later) = ',' :: later := skipBlanks_cons rfl later
  rw [fieldStart_append, takeFields, skipBlanks_cons rfl]
  simp only [takeString_text, Option.bind_eq_bind, Option.bind_some, colon, taken, mark, others,
    String.ofList_toList]
  rfl

theorem toList_joinWith_cons_cons (item next : String) (more : List String) :
    (joinWith "," (item :: next :: more)).toList =
      item.toList ++ ',' :: (joinWith "," (next :: more)).toList := by
  simp [joinWith]

theorem exists_toList_joinWith (item : String) (more : List String) :
    ∃ later, (joinWith "," (item :: more)).toList = item.toList ++ later := by
  cases more with
  | nil => exact ⟨[], by simp [joinWith]⟩
  | cons next others => exact ⟨_, toList_joinWith_cons_cons item next others⟩

theorem toList_compactField (name : String) (value : Json) :
    (stringText name ++ ":" ++ compact value).toList = fieldStart name ++ value.compact.toList := by
  simp [fieldStart]

mutual

/-- A value is read back from its text, whatever follows it. -/
theorem takeValue_compact : ∀ (json : Json) ⦃fuel depth : Nat⦄ ⦃rest : List Char⦄,
    Writable json → json.depth ≤ depth → 2 * json.compact.toList.length ≤ fuel + 1 → Follows rest →
      takeValue (fuel + 1) depth (json.compact.toList ++ rest) = some (json, rest)
  | .null => by
      intro fuel depth rest _ _ _ _
      simp [compact, takeValue, skipBlanks, isSpacing, takeWord, dropStart?]
  | .bool b => by
      intro fuel depth rest _ _ _ _
      cases b <;> simp [compact, takeValue, skipBlanks, isSpacing, takeWord, dropStart?]
  | .integer n => by
      intro fuel depth rest writable _ _ follows
      exact takeValue_of_takeNumber (takeNumber_integer writable.1 writable.2 follows) fuel depth
  | .float x => by
      intro fuel depth rest writable _ _ follows
      exact takeValue_of_takeNumber (takeNumber_float writable follows) fuel depth
  | .string s => by
      intro fuel depth rest _ _ _ _
      exact takeValue_string s fuel depth rest
  | .array items => by
      intro fuel depth rest writable shallow enough _
      obtain ⟨inner, rfl⟩ : ∃ inner, depth = inner + 1 :=
        Nat.exists_eq_add_one.mpr (Nat.lt_of_lt_of_le (Nat.succ_pos _) shallow)
      rw [toList_compact_array, List.length_cons, List.length_append, List.length_singleton]
        at enough
      obtain ⟨left, rfl⟩ : ∃ left, fuel = left + 1 := ⟨fuel - 1, by omega⟩
      rw [toList_compact_array, List.cons_append, List.append_assoc, List.singleton_append]
      cases items with
      | nil => rfl
      | cons item more =>
          have taken : takeItems (left + 1) inner
              ((joinWith "," (compactItems (item :: more))).toList ++ ']' :: rest) =
                some (item :: more, rest) :=
            takeItems_compact (item :: more) (by simp) writable
              (Nat.le_of_succ_le_succ shallow) (by omega)
          obtain ⟨c, tail, text, solid, notEnd⟩ := head_compact writable.1
          obtain ⟨later, joined⟩ := exists_toList_joinWith item.compact (compactItems more)
          rw [compactItems, joined, text] at taken ⊢
          exact takeValue_array solid notEnd taken
  | .object fields => by
      intro fuel depth rest writable shallow enough _
      obtain ⟨inner, rfl⟩ : ∃ inner, depth = inner + 1 :=
        Nat.exists_eq_add_one.mpr (Nat.lt_of_lt_of_le (Nat.succ_pos _) shallow)
      rw [toList_compact_object, List.length_cons, List.length_append, List.length_singleton]
        at enough
      obtain ⟨left, rfl⟩ : ∃ left, fuel = left + 1 := ⟨fuel - 1, by omega⟩
      rw [toList_compact_object, List.cons_append, List.append_assoc, List.singleton_append]
      match fields with
      | [] => rfl
      | (name, value) :: more =>
          have taken : takeFields (left + 1) inner
              ((joinWith "," (compactFields ((name, value) :: more))).toList ++ '\x7d' :: rest) =
                some ((name, value) :: more, rest) :=
            takeFields_compact ((name, value) :: more) (by simp) writable
              (Nat.le_of_succ_le_succ shallow) (by omega)
          obtain ⟨later, joined⟩ := exists_toList_joinWith
            (stringText name ++ ":" ++ value.compact) (compactFields more)
          rw [compactFields, joined, String.append_assoc, String.toList_append, toList_stringText]
            at taken ⊢
          exact takeValue_object rfl (by decide) taken

/-- The items of an array are read back, with fuel for twice the length of their
text. -/
theorem takeItems_compact : ∀ (items : List Json) ⦃fuel depth : Nat⦄ ⦃rest : List Char⦄,
    items ≠ [] → ItemsWritable items → itemsDepth items ≤ depth →
      2 * (joinWith "," (compactItems items)).toList.length ≤ fuel →
        takeItems (fuel + 1) depth ((joinWith "," (compactItems items)).toList ++ ']' :: rest) =
          some (items, rest)
  | [] => by
      intro fuel depth rest nonempty
      exact absurd rfl nonempty
  | item :: more => by
      intro fuel depth rest _ writable shallow enough
      have itemShallow : item.depth ≤ depth := (Nat.le_max_left _ _).trans shallow
      have moreShallow : itemsDepth more ≤ depth := (Nat.le_max_right _ _).trans shallow
      obtain ⟨c, tail, text, _⟩ := head_compact writable.1
      have itemLength : 0 < item.compact.toList.length := by simp [text]
      have later {fuel : Nat} (nonempty : more ≠ [])
          (enough : 2 * (joinWith "," (compactItems more)).toList.length ≤ fuel) :
          takeItems (fuel + 1) depth ((joinWith "," (compactItems more)).toList ++ ']' :: rest) =
            some (more, rest) :=
        takeItems_compact more nonempty writable.2 moreShallow enough
      cases more with
      | nil =>
          simp only [compactItems, joinWith] at enough ⊢
          obtain ⟨left, rfl⟩ : ∃ left, fuel = left + 1 := ⟨fuel - 1, by omega⟩
          exact takeItems_last (takeValue_compact item writable.1 itemShallow enough (.bracket rest))
      | cons next others =>
          simp only [compactItems] at later enough ⊢
          rw [toList_joinWith_cons_cons, List.length_append, List.length_cons] at enough
          rw [toList_joinWith_cons_cons, List.append_assoc, List.cons_append]
          obtain ⟨left, rfl⟩ : ∃ left, fuel = left + 1 := ⟨fuel - 1, by omega⟩
          exact takeItems_more
            (takeValue_compact item writable.1 itemShallow (by omega) (.comma _))
            (later (by simp) (by omega))

/-- The fields of an object are read back, with fuel for twice the length of
their text. -/
theorem takeFields_compact : ∀ (fields : List (String × Json)) ⦃fuel depth : Nat⦄
    ⦃rest : List Char⦄, fields ≠ [] → FieldsWritable fields → fieldsDepth fields ≤ depth →
      2 * (joinWith "," (compactFields fields)).toList.length ≤ fuel →
        takeFields (fuel + 1) depth
          ((joinWith "," (compactFields fields)).toList ++ '\x7d' :: rest) = some (fields, rest)
  | [] => by
      intro fuel depth rest nonempty
      exact absurd rfl nonempty
  | (name, value) :: more => by
      intro fuel depth rest _ writable shallow enough
      have valueShallow : value.depth ≤ depth := (Nat.le_max_left _ _).trans shallow
      have moreShallow : fieldsDepth more ≤ depth := (Nat.le_max_right _ _).trans shallow
      obtain ⟨c, tail, text, _⟩ := head_compact writable.1
      have valueLength : 0 < value.compact.toList.length := by simp [text]
      have later {fuel : Nat} (nonempty : more ≠ [])
          (enough : 2 * (joinWith "," (compactFields more)).toList.length ≤ fuel) :
          takeFields (fuel + 1) depth
            ((joinWith "," (compactFields more)).toList ++ '\x7d' :: rest) = some (more, rest) :=
        takeFields_compact more nonempty writable.2 moreShallow enough
      cases more with
      | nil =>
          simp only [compactFields, joinWith, toList_compactField, List.length_append] at enough ⊢
          obtain ⟨left, rfl⟩ : ∃ left, fuel = left + 1 := ⟨fuel - 1, by omega⟩
          rw [List.append_assoc]
          exact takeFields_last name
            (takeValue_compact value writable.1 valueShallow (by omega) (.brace rest))
      | cons next others =>
          simp only [compactFields] at later enough ⊢
          rw [toList_joinWith_cons_cons, toList_compactField, List.length_append,
            List.length_append, List.length_cons] at enough
          rw [toList_joinWith_cons_cons, toList_compactField, List.append_assoc, List.append_assoc,
            List.cons_append]
          obtain ⟨left, rfl⟩ : ∃ left, fuel = left + 1 := ⟨fuel - 1, by omega⟩
          exact takeFields_more name
            (takeValue_compact value writable.1 valueShallow (by omega) (.comma _))
            (later (by simp) (by omega))

end

/-- Reading the text of a value gives back the value. -/
theorem parse?_compact {json : Json} (writable : Writable json) {depth : Nat}
    (shallow : json.depth ≤ depth) : parse? depth json.compact = some json := by
  have taken := takeValue_compact json writable shallow
    (show 2 * json.compact.toList.length ≤ 2 * json.compact.toList.length + 1 + 1 by omega) .nil
  rw [List.append_nil] at taken
  simp [parse?, taken, skipBlanks]

end ColumnarSql.Json
