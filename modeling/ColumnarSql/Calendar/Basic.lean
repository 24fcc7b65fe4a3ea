/-
Module: ColumnarSql.Calendar.Basic
Purpose: Calendar dates and times of day.
Main exports:
  Date, Time, DateTime, Date.ofParts?, Time.ofParts?, Date.midnight
-/

namespace ColumnarSql

/-!
Dates follow the proleptic Gregorian calendar, which extends the rule of leap
years to all years, the year zero and negative ones included.  A time of day
may name the leap second 60, at the end of any minute.

There is no leap second within a minute.  A clock that stretches another second
to two would write the second half of it like the second that follows, and its
text would be read back as that one; such a time has no counterpart here.
-/

namespace Date

/-- The first year that can be named. -/
def minYear : Int := -262143

/-- The last year that can be named. -/
def maxYear : Int := 262142

/-- Every fourth year, except the centuries that four hundred does not
divide. -/
def isLeapYear (year : Int) : Bool :=
  year % 4 == 0 && (year % 100 != 0 || year % 400 == 0)

/-- Number of days of a month. -/
def daysInMonth (year : Int) (month : Nat) : Nat :=
  if month == 2 then
    if isLeapYear year then 29 else 28
  else if month == 4 || month == 6 || month == 9 || month == 11 then
    30
  else
    31

/-- Whether a year, month and day name a date. -/
def isValid (year : Int) (month day : Nat) : Bool :=
  minYear ≤ year && year ≤ maxYear && 1 ≤ month && month ≤ 12 && 1 ≤ day &&
    day ≤ daysInMonth year month

end Date

/-- A calendar date. -/
structure Date where
  year : Int
  month : Nat
  day : Nat
  valid : Date.isValid year month day = true
deriving DecidableEq, Repr

instance : Inhabited Date := ⟨⟨1970, 1, 1, by decide⟩⟩

/-- The date with the given parts, if there is one. -/
def Date.ofParts? (year : Int) (month day : Nat) : Option Date :=
  if h : Date.isValid year month day = true then some ⟨year, month, day, h⟩ else none

/-- A time of day to the nanosecond. -/
structure Time where
  hour : Nat
  minute : Nat
  second : Nat
  nanosecond : Nat
  hour_lt : hour < 24
  minute_lt : minute < 60
  second_le : second ≤ 60
  nanosecond_lt : nanosecond < 1000000000
deriving DecidableEq, Repr

/-- The start of a day. -/
def Time.midnight : Time :=
  ⟨0, 0, 0, 0, by decide, by decide, by decide, by decide⟩

instance : Inhabited Time := ⟨Time.midnight⟩

/-- The time with the given parts, if there is one. -/
def Time.ofParts? (hour minute second nanosecond : Nat) : Option Time :=
  if h : hour < 24 ∧ minute < 60 ∧ second ≤ 60 ∧ nanosecond < 1000000000 then
    some ⟨hour, minute, second, nanosecond, h.1, h.2.1, h.2.2.1, h.2.2.2⟩
  else
    none

/-- A date with a time of day. -/
structure DateTime where
  date : Date
  time : Time
deriving DecidableEq, Repr, Inhabited

/-- The first moment of a date. -/
def Date.midnight (date : Date) : DateTime :=
  ⟨date, Time.midnight⟩

end ColumnarSql
