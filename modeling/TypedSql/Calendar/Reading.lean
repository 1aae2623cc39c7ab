import TypedSql.Calendar.Timestamp
import TypedSql.Text.Blank

/-!
# Reading timestamps

* `Timestamp.readZoned?`: the strict form with an offset, converted to universal time.
* `Timestamp.readLoose?`: date and time without an offset, with blanks and short numbers.
* `Timestamp.readDate?`: a date alone, which stands for its start.
* `Timestamp.read?`: the first of these that applies.

Each reader of a part takes the text that is left and returns what follows the part.
-/

namespace TypedSql.Timestamp

open Text

/-! ## Parts -/

def expect? (c : Char) : List Char → Option (List Char)
  | [] => none
  | d :: s => if d = c then some s else none

def fixedNumber? (n : Nat) (s : List Char) : Option (Nat × List Char) :=
  let ds := s.take n
  if ds.length = n ∧ ds.all Char.isDigit then some (digitsValue ds, s.drop n) else none

/-- From one to `most` digits, after any blanks. -/
def number? (most : Nat) (s : List Char) : Option (Nat × List Char) :=
  let s := trimStart s
  let ds := (s.take most).takeWhile Char.isDigit
  if ds.isEmpty then none else some (digitsValue ds, s.drop ds.length)

/-- A year, after any blanks: up to four digits, or a sign and any number of them. -/
def year? (s : List Char) : Option (Int × List Char) :=
  match trimStart s with
  | '-' :: s =>
    let (ds, rest) := spanDigits s
    if ds.isEmpty then none else some (-(digitsValue ds : Int), rest)
  | '+' :: s =>
    let (ds, rest) := spanDigits s
    if ds.isEmpty then none else some ((digitsValue ds : Int), rest)
  | s => (number? 4 s).map fun (n, rest) => ((n : Int), rest)

/-- The nanoseconds that the digits of a fraction write; digits beyond the ninth are dropped. -/
def fractionNanos (ds : List Char) : Nat :=
  digitsValue (ds.take 9) * 10 ^ (9 - (ds.take 9).length)

/-- An optional fraction: a point and a digit or more. -/
def fraction? : List Char → Option (Nat × List Char)
  | '.' :: s =>
    let (ds, rest) := spanDigits s
    if ds.isEmpty then none else some (fractionNanos ds, rest)
  | s => some (0, s)

/-- The time of these parts; second 60 is a leap second of any minute. -/
def clock? (hour minute second nano : Nat) : Option Clock :=
  if second = 60 then Clock.ofParts? hour minute 59 (nano + 10 ^ 9) else Clock.ofParts? hour minute second nano

/-! ## With an offset -/

/-- The minutes east of universal time, up to the end of the text: the letter `Z`, or a sign, hours and minutes. -/
def offset? : List Char → Option Int
  | [c] => if c = 'Z' ∨ c = 'z' then some 0 else none
  | c :: s => do
    let negative ← if c = '+' then some false else if c = '-' ∨ c = '−' then some true else none
    let (hours, s) ← fixedNumber? 2 s
    let s ← expect? ':' s
    let (minutes, s) ← fixedNumber? 2 s
    if s.isEmpty ∧ hours < 24 ∧ minutes < 60 then some (Binary.signed negative (hours * 60 + minutes)) else none
  | [] => none

/-- The letter or the space between date and time. -/
def separator? : List Char → Option (List Char)
  | [] => none
  | c :: s => if c = 'T' ∨ c = 't' ∨ c = ' ' then some s else none

/-- Date, time and offset in full width, converted to universal time. -/
def readZoned? (s : List Char) : Option Timestamp := do
  let (year, s) ← fixedNumber? 4 s
  let s ← expect? '-' s
  let (month, s) ← fixedNumber? 2 s
  let s ← expect? '-' s
  let (day, s) ← fixedNumber? 2 s
  let s ← separator? s
  let (hour, s) ← fixedNumber? 2 s
  let s ← expect? ':' s
  let (minute, s) ← fixedNumber? 2 s
  let s ← expect? ':' s
  let (second, s) ← fixedNumber? 2 s
  let (nano, s) ← fraction? s
  let offset ← offset? s
  let d ← Date.ofParts? year month day
  let c ← clock? hour minute second nano
  addMinutes? ⟨d, c⟩ (-offset)

/-! ## Without an offset -/

/-- A date at the start of a text. -/
def datePart? (s : List Char) : Option (Date × List Char) := do
  let (year, s) ← year? s
  let s ← expect? '-' s
  let (month, s) ← number? 2 s
  let s ← expect? '-' s
  let (day, s) ← number? 2 s
  let d ← Date.ofParts? year month day
  return (d, s)

/-- A time up to the end of the text. -/
def clockPart? (s : List Char) : Option Clock := do
  let (hour, s) ← number? 2 s
  let s ← expect? ':' s
  let (minute, s) ← number? 2 s
  let s ← expect? ':' s
  let (second, s) ← number? 2 s
  let (nano, s) ← fraction? s
  if s.isEmpty then clock? hour minute second nano else none

/-- Date and time with blanks, or none, between them. -/
def readSpaced? (s : List Char) : Option Timestamp := do
  let (d, s) ← datePart? s
  let c ← clockPart? (trimStart s)
  return ⟨d, c⟩

/-- Date and time with the letter `T` between them. -/
def readLettered? (s : List Char) : Option Timestamp := do
  let (d, s) ← datePart? s
  let s ← expect? 'T' s
  let c ← clockPart? s
  return ⟨d, c⟩

/-- Date and time without an offset. -/
def readLoose? (s : List Char) : Option Timestamp :=
  readSpaced? s <|> readLettered? s

def readDate? (s : List Char) : Option Timestamp := do
  let (d, s) ← datePart? s
  if s.isEmpty then some (ofDate d) else none

def read? (s : List Char) : Option Timestamp :=
  readZoned? s <|> readLoose? s <|> readDate? s

end TypedSql.Timestamp
