import TypedSql.Calendar.Reading
import TypedSql.Json.Lexeme
import TypedSql.Toml

/-!
# Scalars of TOML

* `Toml.Scalar.integer?`: an integer in base ten, sixteen, eight or two.
* `Toml.Scalar.float?`: a floating-point number, an infinity or a not-a-number.
* `Toml.Scalar.isMoment`: a date, a time, or both with or without an offset.
* `Toml.scalar?`: a value without quotes or brackets.
-/

namespace TypedSql.Toml

namespace Scalar

/-- The digits of a number without the underscores, each of which must stand between two digits. -/
def ungrouped? (isDigit : Char → Bool) : List Char → Option (List Char)
  | [] => none
  | [c] => if isDigit c then some [c] else none
  | c :: '_' :: s => if isDigit c then (ungrouped? isDigit s).map (c :: ·) else none
  | c :: s => if isDigit c then (ungrouped? isDigit s).map (c :: ·) else none

/-! ## Integers -/

/-- The value of a digit below a base. -/
def digitBelow? (base : Nat) (c : Char) : Option Nat :=
  (Json.Lexeme.hexValue? c).filter (· < base)

/-- A natural number in a base. -/
def based? (base : Nat) (s : List Char) : Option Nat := do
  let ds ← ungrouped? (fun c => (digitBelow? base c).isSome) s
  let vs ← ds.mapM (digitBelow? base)
  return vs.foldl (base * · + ·) 0

/-- A zero alone, or digits that start with another one. -/
def wholeDigits? (s : List Char) : Option (List Char) :=
  (ungrouped? Char.isDigit s).filter fun ds => ds.length = 1 || ds.head? != some '0'

/-- An integer; other bases than ten have no sign. -/
def integer? : List Char → Option Int
  | '0' :: 'x' :: s => (based? 16 s).map Int.ofNat
  | '0' :: 'o' :: s => (based? 8 s).map Int.ofNat
  | '0' :: 'b' :: s => (based? 2 s).map Int.ofNat
  | s =>
    let (negative, body) := splitSign s
    (wholeDigits? body).map fun ds => Binary.signed negative (digitsValue ds)

/-! ## Floating-point numbers -/

/-- A digit or an underscore. -/
def isGrouped (c : Char) : Bool :=
  c.isDigit || c == '_'

/-- The digits after a point, or none without one; and what follows. -/
def fraction? : List Char → Option (List Char × List Char)
  | '.' :: s => (ungrouped? Char.isDigit (s.takeWhile isGrouped)).map fun ds => (ds, s.dropWhile isGrouped)
  | s => some ([], s)

/-- An exponent up to the end of the text, or zero without one. -/
def exponent? : List Char → Option Int
  | [] => some 0
  | c :: s =>
    if c = 'e' ∨ c = 'E' then
      let (negative, body) := splitSign s
      (ungrouped? Char.isDigit body).map fun ds => Binary.signed negative (digitsValue ds)
    else none

/-- A number with a fraction or an exponent; the inner option is none if the number is beyond the finite ones. -/
def decimal? (negative : Bool) (s : List Char) : Option (Option Double) := do
  let whole ← wholeDigits? (s.takeWhile isGrouped)
  let rest := s.dropWhile isGrouped
  let (fraction, tail) ← fraction? rest
  let exponent ← exponent? tail
  let x := Binary.ofDecimal negative (digitsValue (whole ++ fraction)) (exponent - fraction.length)
  if rest.isEmpty then none else some (if x.isFinite then some x else none)

/-- A floating-point number; the inner option is none if the number is beyond the finite ones. -/
def float? (s : List Char) : Option (Option Double) :=
  let (negative, body) := splitSign s
  if body = ['i', 'n', 'f'] then some (some (Binary.infinity .double negative))
  else if body = ['n', 'a', 'n'] then some (some (Binary.quietNaN .double negative))
  else decimal? negative body

/-! ## Dates and times -/

/-- What follows a date at the start of a text. -/
def afterDate? (s : List Char) : Option (List Char) := do
  let (year, s) ← Timestamp.fixedNumber? 4 s
  let s ← Timestamp.expect? '-' s
  let (month, s) ← Timestamp.fixedNumber? 2 s
  let s ← Timestamp.expect? '-' s
  let (day, s) ← Timestamp.fixedNumber? 2 s
  let _ ← Date.ofParts? year month day
  return s

/-- What follows the optional seconds of a time, and the seconds and nanoseconds. -/
def seconds? : List Char → Option ((Nat × Nat) × List Char)
  | ':' :: s => do
    let (second, s) ← Timestamp.fixedNumber? 2 s
    let (nano, s) ← Timestamp.fraction? s
    return ((second, nano), s)
  | s => some ((0, 0), s)

/-- What follows a time at the start of a text. -/
def afterTime? (s : List Char) : Option (List Char) := do
  let (hour, s) ← Timestamp.fixedNumber? 2 s
  let s ← Timestamp.expect? ':' s
  let (minute, s) ← Timestamp.fixedNumber? 2 s
  let ((second, nano), s) ← seconds? s
  let _ ← Timestamp.clock? hour minute second nano
  return s

/-- Nothing, or an offset in ASCII characters. -/
def isOffset (s : List Char) : Bool :=
  s.isEmpty || (s.all (·.toNat < 128) && (Timestamp.offset? s).isSome)

/-- A date, a time, or a date and a time with or without an offset. -/
def isMoment (s : List Char) : Bool :=
  match afterDate? s with
  | some [] => true
  | some rest => ((Timestamp.separator? rest).bind afterTime?).any isOffset
  | none => (afterTime? s).any List.isEmpty

end Scalar

/-- A value without quotes or brackets. -/
def scalar? (s : List Char) : Option Toml :=
  if s = ['t', 'r', 'u', 'e'] then some (boolean true)
  else if s = ['f', 'a', 'l', 's', 'e'] then some (boolean false)
  else if Scalar.isMoment s then some (moment (String.ofList s))
  else (Scalar.integer? s).map integer <|> (Scalar.float? s).map float

end TypedSql.Toml
