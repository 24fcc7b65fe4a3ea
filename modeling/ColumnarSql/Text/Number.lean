/-
Module: ColumnarSql.Text.Number
Purpose: Reading and writing whole numbers in decimal notation.
Main exports:
  isDigits, readDigits?, readNatural?, readInteger?, padded
-/

namespace ColumnarSql.Text

/-!
Whole numbers are written with ASCII digits only.  `readNatural?` and
`readInteger?` read the forms with an optional sign; range checks belong to
the callers, which know the width they need.
-/

/-- At least one character, all of them ASCII digits. -/
def isDigits (s : List Char) : Bool :=
  !s.isEmpty && s.all Char.isDigit

/-- The number written by a digit string. -/
def digitsValue (s : List Char) : Nat :=
  Nat.ofDigitChars 10 s 0

/-- Read a nonempty digit string. -/
def readDigits? (s : List Char) : Option Nat :=
  if isDigits s then some (digitsValue s) else none

/-- Read an unsigned number: digits with an optional plus sign. -/
def readNatural? : List Char → Option Nat
  | '+' :: rest => readDigits? rest
  | s => readDigits? s

/-- Read a signed number: digits with an optional plus or minus sign. -/
def readInteger? : List Char → Option Int
  | '-' :: rest => (readDigits? rest).map fun n => -(n : Int)
  | s => (readNatural? s).map fun n => (n : Int)

/-- Read an unsigned number that is at most `max`. -/
def readNaturalUpTo? (max : Nat) (s : List Char) : Option Nat :=
  (readNatural? s).filter (· ≤ max)

/-- Read a signed number that lies between `min` and `max`. -/
def readIntegerWithin? (min max : Int) (s : List Char) : Option Int :=
  (readInteger? s).filter fun n => min ≤ n && n ≤ max

/-- The digits of a number. -/
def digitsOf (n : Nat) : List Char :=
  Nat.toDigits 10 n

/-- The digits of a number, with zeros in front up to `width` digits. -/
def padded (width n : Nat) : List Char :=
  let digits := digitsOf n
  List.replicate (width - digits.length) '0' ++ digits

@[simp] theorem digitsValue_digitsOf (n : Nat) : digitsValue (digitsOf n) = n :=
  Nat.ofDigitChars_ten_toDigits

end ColumnarSql.Text
