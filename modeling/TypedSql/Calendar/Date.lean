/-!
# Dates

Dates of the Gregorian calendar, continued in both directions, and their numbers.

* `Date`: a year from -262143 to 262142, a month and a day that exist.
* `Date.dayNumber`: the days since 1970-01-01.
* `Date.ofDayNumber?`: the date with a given number.
-/

namespace TypedSql

namespace Calendar

/-- A year of 366 days. -/
def isLeapYear (year : Int) : Bool :=
  (year % 4 == 0 && year % 100 != 0) || year % 400 == 0

/-- The lengths of the months of a year. -/
def monthLengths (year : Int) : List Nat :=
  [31, if isLeapYear year then 29 else 28, 31, 30, 31, 30, 31, 31, 30, 31, 30, 31]

/-- The length of a month, counted from one; no other number has days. -/
def daysInMonth (year : Int) (month : Nat) : Nat :=
  if month = 0 then 0 else (monthLengths year).getD (month - 1) 0

/-- The days from 0001-01-01 to the first day of a year. -/
def daysBeforeYear (year : Int) : Int :=
  365 * (year - 1) + (year - 1) / 4 - (year - 1) / 100 + (year - 1) / 400

/-- The days from the first day of a year to the first day of a month. -/
def daysBeforeMonth (year : Int) (month : Nat) : Nat :=
  ((monthLengths year).take (month - 1)).foldr (· + ·) 0

/-- The days from 0001-01-01 to 1970-01-01. -/
def epochDay : Int := 719162

/-- The year of the day that comes `n` days after 0001-01-01: the mean length of years is off by one year at
most. -/
def yearOfDay (n : Int) : Int :=
  let guess := n * 400 / 146097 + 1
  if n < daysBeforeYear guess then guess - 1
  else if daysBeforeYear (guess + 1) ≤ n then guess + 1
  else guess

/-- The month, counted from one, and the day, counted from one, that come `n` days after the start of months of
these lengths. -/
def splitMonths : List Nat → Nat → Nat × Nat
  | [], n => (1, n + 1)
  | length :: rest, n =>
    if n < length then (1, n + 1)
    else
      let (month, day) := splitMonths rest (n - length)
      (month + 1, day)

/-- A date that exists, in a year that is kept. -/
def IsDate (year : Int) (month day : Nat) : Prop :=
  -262143 ≤ year ∧ year ≤ 262142 ∧ 1 ≤ day ∧ day ≤ daysInMonth year month

instance (year : Int) (month day : Nat) : Decidable (IsDate year month day) := by
  unfold IsDate; infer_instance

end Calendar

open Calendar

/-- A year, a month and a day that exist. -/
structure Date where
  year : Int
  month : Nat
  day : Nat
  valid : IsDate year month day
deriving DecidableEq

namespace Date

/-- The date with these parts, if there is one. -/
def ofParts? (year : Int) (month day : Nat) : Option Date :=
  if h : IsDate year month day then some ⟨year, month, day, h⟩ else none

def epoch : Date := ⟨1970, 1, 1, by decide⟩

/-- The days since 1970-01-01. -/
def dayNumber (d : Date) : Int :=
  daysBeforeYear d.year + daysBeforeMonth d.year d.month + (d.day - 1 : Nat) - epochDay

def ofDayNumber? (n : Int) : Option Date :=
  let day := n + epochDay
  let year := yearOfDay day
  let (month, dayOfMonth) := splitMonths (monthLengths year) (day - daysBeforeYear year).toNat
  ofParts? year month dayOfMonth

theorem dayNumber_epoch : epoch.dayNumber = 0 := by decide

end Date

end TypedSql
