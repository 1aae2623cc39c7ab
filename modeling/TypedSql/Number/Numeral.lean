import TypedSql.Number.Shortest

/-!
# Numerals

* `intText`, `readInt?`: integers.
* `Layout`: how a floating-point number is written; `Layout.plain` never uses an exponent.
* `Layout.text`: the written number.
* `readDouble?`: a floating-point number from its text.
-/

namespace TypedSql

/-! ## Integers -/

/-- The decimal digits of an integer after its sign. -/
def intText (n : Int) : String :=
  if n < 0 then "-" ++ Nat.repr n.natAbs else Nat.repr n.natAbs

/-- The number that a text of decimal digits writes. -/
def digitsValue (s : List Char) : Nat :=
  Nat.ofDigitChars 10 s 0

/-- The digits at the start of a text, and what follows. -/
def spanDigits (s : List Char) : List Char × List Char :=
  (s.takeWhile Char.isDigit, s.dropWhile Char.isDigit)

/-- One decimal digit or more. -/
def readNat? (s : List Char) : Option Nat :=
  if s ≠ [] ∧ s.all Char.isDigit then some (digitsValue s) else none

/-- Decimal digits after an optional sign. -/
def readInt? : List Char → Option Int
  | '+' :: s => (readNat? s).map Int.ofNat
  | '-' :: s => (readNat? s).map fun n => -(n : Int)
  | s => (readNat? s).map Int.ofNat

/-- A natural number after an optional plus sign. -/
def readUnsigned? : List Char → Option Nat
  | '+' :: s => readNat? s
  | s => readNat? s

def readIntIn? (low high : Int) (s : List Char) : Option Int :=
  (readInt? s).filter fun n => decide (low ≤ n) && decide (n ≤ high)

/-! ## Floating-point numbers -/

/-- How a floating-point number is written: which exponents of its first digit are written positionally, whether
a whole number ends in `.0`, and how ties between shortest digits are settled. -/
structure Layout where
  tie : Tie
  positional : Int → Bool
  pointZero : Bool

/-- Always positional, and bare whole numbers. -/
def Layout.plain : Layout := ⟨.up, fun _ => true, false⟩

/-- The digits `ds` with the point after the first `point` of them, padded with zeros where it falls outside. -/
def positionalText (pointZero : Bool) (ds : List Char) (point : Int) : List Char :=
  if point ≤ 0 then ['0', '.'] ++ List.replicate (-point).toNat '0' ++ ds
  else if ds.length ≤ point.toNat then
    ds ++ List.replicate (point.toNat - ds.length) '0' ++ (if pointZero then ['.', '0'] else [])
  else ds.take point.toNat ++ '.' :: ds.drop point.toNat

/-- One digit before the point and the exponent, with its sign, after the digits. -/
def scientificText (ds : List Char) (exponent : Int) : List Char :=
  ds.take 1 ++ (if ds.length ≤ 1 then [] else '.' :: ds.drop 1) ++
    ['e', if exponent < 0 then '-' else '+'] ++ Nat.toDigits 10 exponent.natAbs

/-- A finite number in a layout. -/
def Layout.finiteText (l : Layout) (x : Double) : List Char :=
  (if x.negative then ['-'] else []) ++
    if x.isZero then (if l.pointZero then ['0', '.', '0'] else ['0'])
    else
      let d := shortest l.tie x
      let ds := Nat.toDigits 10 d.digits
      let point : Int := ds.length + d.exponent
      if l.positional (point - 1) then positionalText l.pointZero ds point else scientificText ds (point - 1)

/-- A number in a layout; infinities and not-a-numbers by name. -/
def Layout.text (l : Layout) (x : Double) : String :=
  if x.isNaN then "NaN"
  else if !x.isFinite then (if x.negative then "-inf" else "inf")
  else String.ofList (l.finiteText x)

/-! ## Reading a floating-point number -/

/-- A sign at the start, and whether it is a minus. -/
def splitSign : List Char → Bool × List Char
  | '-' :: s => (true, s)
  | '+' :: s => (false, s)
  | s => (false, s)

/-- An exponent: nothing, or the letter, an optional sign and digits, up to the end. -/
def readExponent? : List Char → Option Int
  | [] => some 0
  | c :: s =>
    if c = 'e' ∨ c = 'E' then
      let (negative, ds) := splitSign s
      (readNat? ds).map (Binary.signed negative)
    else none

/-- An optional point and the digits after it, and what follows. -/
def splitFraction : List Char → List Char × List Char
  | '.' :: s => spanDigits s
  | s => ([], s)

/-- Digits with an optional point and exponent, up to the end. -/
def readMagnitude? (negative : Bool) (s : List Char) : Option Double :=
  let (whole, rest) := spanDigits s
  let (fraction, rest) := splitFraction rest
  if whole.isEmpty && fraction.isEmpty then none
  else
    (readExponent? rest).map fun e =>
      Binary.ofDecimal negative (digitsValue (whole ++ fraction)) (e - fraction.length)

/-- A floating-point number: an optional sign, then digits or the name of an infinity or a not-a-number in
letters of either case. -/
def readDouble? (s : List Char) : Option Double :=
  let (negative, body) := splitSign s
  let name := String.ofList (body.map Char.toLower)
  if name = "inf" ∨ name = "infinity" then some (Binary.infinity .double negative)
  else if name = "nan" then some (Binary.quietNaN .double negative)
  else readMagnitude? negative body

end TypedSql
