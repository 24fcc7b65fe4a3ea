/-
Module: ColumnarSql.Calendar.Reader
Purpose: Reading dates and times from text.
Main exports:
  Date.read?, DateTime.read?, Date.readLoose?, DateTime.readLoose?
-/
import ColumnarSql.Calendar.Basic
import ColumnarSql.Text.Blank
import ColumnarSql.Text.Number

namespace ColumnarSql

open Text

/-!
Blanks may stand before every number.  The loose forms, used where dates are
exchanged as data, also allow blanks before every separator and at the end,
and put a `T` between date and time; the strict forms, used for texts that
users supply, let any run of blanks, also none, separate date and time.
-/

namespace Calendar

/-- Read at least one and at most `width` digits. -/
def takeNumber (width : Nat) (s : List Char) : Option (Nat × List Char) :=
  let digits := (s.takeWhile Char.isDigit).take width
  if digits.isEmpty then none else some (digitsValue digits, s.drop digits.length)

/-- Read a number of at most two digits, with blanks before it. -/
def takeField (s : List Char) : Option (Nat × List Char) :=
  takeNumber 2 (trimStart s)

/-- Read a year with blanks before it.  A signed year may have any number of
digits, an unsigned one at most four. -/
def takeYear (s : List Char) : Option (Int × List Char) :=
  match trimStart s with
  | '-' :: rest => (takeNumber rest.length rest).map fun (n, tail) => (-(n : Int), tail)
  | '+' :: rest => (takeNumber rest.length rest).map fun (n, tail) => ((n : Int), tail)
  | rest => (takeNumber 4 rest).map fun (n, tail) => ((n : Int), tail)

/-- Expect a given character, with blanks before it if `loose`. -/
def takeMark (loose : Bool) (mark : Char) (s : List Char) : Option (List Char) :=
  match (if loose then trimStart s else s) with
  | c :: rest => if c == mark then some rest else none
  | [] => none

/-- Read a date at the start of a text. -/
def takeDate (loose : Bool) (s : List Char) : Option (Date × List Char) := do
  let (year, s) ← takeYear s
  let s ← takeMark loose '-' s
  let (month, s) ← takeField s
  let s ← takeMark loose '-' s
  let (day, s) ← takeField s
  let date ← Date.ofParts? year month day
  return (date, s)

/-- Nanoseconds from the digits after the point: digits after the ninth do not
count. -/
def nanoseconds (digits : List Char) : Nat :=
  let used := digits.take 9
  digitsValue used * Nat.pow 10 (9 - used.length)

/-- Read the fraction of a second: nothing, or a point and at least one
digit. -/
def takeFraction (s : List Char) : Option (Nat × List Char) :=
  match s with
  | '.' :: rest =>
      let digits := rest.takeWhile Char.isDigit
      if digits.isEmpty then none else some (nanoseconds digits, rest.dropWhile Char.isDigit)
  | _ => some (0, s)

/-- Read a time at the start of a text. -/
def takeTime (loose : Bool) (s : List Char) : Option (Time × List Char) := do
  let (hour, s) ← takeField s
  let s ← takeMark loose ':' s
  let (minute, s) ← takeField s
  let s ← takeMark loose ':' s
  let (second, s) ← takeField s
  let (nanosecond, s) ← takeFraction s
  let time ← Time.ofParts? hour minute second nanosecond
  return (time, s)

/-- The value read, if nothing follows it. -/
def whole? {α : Type} : Option (α × List Char) → Option α
  | some (value, []) => some value
  | _ => none

end Calendar

open Calendar

/-- Read a date as users write it. -/
def Date.read? (s : List Char) : Option Date :=
  whole? (takeDate false s)

/-- Read a date and time as users write them. -/
def DateTime.read? (s : List Char) : Option DateTime :=
  whole? do
    let (date, s) ← takeDate false s
    let (time, s) ← takeTime false s
    return (⟨date, time⟩, s)

/-- Read a date as it is exchanged. -/
def Date.readLoose? (s : List Char) : Option Date :=
  whole? do
    let (date, s) ← takeDate true s
    return (date, trimStart s)

/-- Read a date and time as they are exchanged. -/
def DateTime.readLoose? (s : List Char) : Option DateTime :=
  whole? do
    let (date, s) ← takeDate true s
    let s ← takeMark true 'T' s
    let (time, s) ← takeTime true s
    return (⟨date, time⟩, trimStart s)

end ColumnarSql
