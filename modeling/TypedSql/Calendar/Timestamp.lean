import TypedSql.Calendar.Date
import TypedSql.Calendar.Clock
import TypedSql.Number.Numeral

/-!
# Timestamps

* `Timestamp`: a date and a time of day, without a zone.
* `Timestamp.epochMillis`, `Timestamp.ofEpochMillis?`: whole milliseconds since 1970-01-01 00:00:00.
* `Timestamp.addMinutes?`: the timestamp a number of minutes later.
* `Timestamp.text`: the written form, which drops an empty fraction.
-/

namespace TypedSql

/-- A date and a time of day. -/
structure Timestamp where
  date : Date
  clock : Clock
deriving DecidableEq

namespace Timestamp

def ofDate (d : Date) : Timestamp := ⟨d, .midnight⟩

/-- Whole seconds since 1970-01-01 00:00:00; a leap second counts as second 59. -/
def epochSeconds (t : Timestamp) : Int :=
  t.date.dayNumber * 86400 + t.clock.secondOfDay

/-- Nanoseconds since 1970-01-01 00:00:00; a leap second lies beyond its second 59. -/
def epochNanos (t : Timestamp) : Int :=
  t.epochSeconds * 10 ^ 9 + t.clock.nano

/-- Milliseconds since 1970-01-01 00:00:00, rounded down. -/
def epochMillis (t : Timestamp) : Int :=
  t.epochSeconds * 1000 + (t.clock.nano / 10 ^ 6 : Nat)

/-- The timestamp so many nanoseconds after 1970-01-01 00:00:00. -/
def ofEpochNanos? (n : Int) : Option Timestamp :=
  let seconds := n / 10 ^ 9
  (Date.ofDayNumber? (seconds / 86400)).map fun d =>
    ⟨d, .ofSecondOfDay (seconds % 86400).toNat (n % 10 ^ 9).toNat⟩

/-- The timestamp so many milliseconds after 1970-01-01 00:00:00. -/
def ofEpochMillis? (n : Int) : Option Timestamp :=
  ofEpochNanos? (n * 10 ^ 6)

/-- The timestamp so many minutes later; seconds and fraction stay. -/
def addMinutes? (t : Timestamp) (minutes : Int) : Option Timestamp :=
  let n := t.date.dayNumber * 1440 + (t.clock.hour * 60 + t.clock.minute : Nat) + minutes
  let minute := (n % 1440).toNat
  match Date.ofDayNumber? (n / 1440), Clock.ofParts? (minute / 60) (minute % 60) t.clock.second t.clock.nano with
  | some d, some c => some ⟨d, c⟩
  | _, _ => none

/-! ## Text -/

/-- A number with zeros in front, at least `width` digits long. -/
def padded (width n : Nat) : List Char :=
  let ds := Nat.toDigits 10 n
  List.replicate (width - ds.length) '0' ++ ds

/-- A year of four digits or more; a sign goes before a negative year and before a longer one. -/
def yearText (year : Int) : List Char :=
  (if year < 0 then ['-'] else if 9999 < year then ['+'] else []) ++ padded 4 year.natAbs

/-- The fraction of a second in three, six or nine digits, the fewest that are exact; nothing when it is zero. -/
def fractionText (nano : Nat) : List Char :=
  if nano = 0 then []
  else if nano % 10 ^ 6 = 0 then '.' :: padded 3 (nano / 10 ^ 6)
  else if nano % 10 ^ 3 = 0 then '.' :: padded 6 (nano / 10 ^ 3)
  else '.' :: padded 9 nano

/-- A date as `YYYY-MM-DD`. -/
def dateText (d : Date) : List Char :=
  yearText d.year ++ '-' :: padded 2 d.month ++ '-' :: padded 2 d.day

/-- A time as `HH:MM:SS` and its fraction; a leap second is second 60. -/
def clockText (c : Clock) : List Char :=
  padded 2 c.hour ++ ':' :: padded 2 c.minute ++ ':' :: padded 2 (if c.isLeap then 60 else c.second) ++
    fractionText (c.nano % 10 ^ 9)

/-- Date and time with a space between them. -/
def text (t : Timestamp) : String :=
  String.ofList (dateText t.date ++ ' ' :: clockText t.clock)

end Timestamp

end TypedSql
