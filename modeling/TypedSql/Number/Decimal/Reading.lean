import TypedSql.Number.Decimal

/-!
# Reading exact decimals

* `Decimal.readPlain?`: digits with an optional sign and point; digits may be grouped by underscores.
* `Decimal.fit?`: fraction digits are taken while they fit, and the first that does not rounds.
* `Decimal.readScientific?`: a plain decimal and an exponent.
* `Decimal.read?`: either form.
-/

namespace TypedSql.Decimal

/-- Digits up to a point or the end, and what follows the point. Underscores may stand anywhere after a first
digit, which `seen` tells of. -/
def digitRun? (seen : Bool) : List Char → Option (List Char × Option (List Char))
  | [] => some ([], none)
  | c :: s =>
    if c = '.' then some ([], some s)
    else if c.isDigit then (digitRun? true s).map fun (ds, rest) => (c :: ds, rest)
    else if c = '_' ∧ seen then digitRun? seen s
    else none

/-- The digits before and after the point, of which there is at least one. -/
def splitDigits? (s : List Char) : Option (List Char × List Char) :=
  match digitRun? false s with
  | none => none
  | some (whole, none) => if whole.isEmpty then none else some (whole, [])
  | some (whole, some s) =>
    match digitRun? (!whole.isEmpty) s with
    | some (fraction, none) => if whole.isEmpty && fraction.isEmpty then none else some (whole, fraction)
    | _ => none

/-- The value of one decimal digit. -/
def digitValue (c : Char) : Nat :=
  c.toNat - '0'.toNat

/-- The mantissa one unit up; where that takes a ninety-seventh bit, without its last digit, if it has a scale to
give up. -/
def roundUp? (mantissa scale : Nat) : Option (Nat × Nat) :=
  if mantissa + 1 < 2 ^ 96 then some (mantissa + 1, scale)
  else if scale = 0 then none
  else some ((mantissa + 5) / 10, scale - 1)

/-- The mantissa and scale after as many of the fraction digits as fit; the first that does not fit rounds half
up and ends the reading. -/
def fit? (mantissa scale : Nat) : List Char → Option (Nat × Nat)
  | [] => some (mantissa, scale)
  | c :: ds =>
    if scale < 28 ∧ 10 * mantissa + digitValue c < 2 ^ 96 then fit? (10 * mantissa + digitValue c) (scale + 1) ds
    else if digitValue c < 5 then some (mantissa, scale)
    else roundUp? mantissa scale

/-- A decimal without an exponent. Its integer part must fit; a zero has no sign. -/
def readPlain? (s : List Char) : Option Decimal := do
  let (negative, body) := splitSign s
  let (whole, fraction) ← splitDigits? body
  if 2 ^ 96 ≤ digitsValue whole then none
  else
    let (mantissa, scale) ← fit? (digitsValue whole) 0 fraction
    ofParts? (negative && mantissa != 0) mantissa scale

/-- The decimal times `10 ^ exponent`: its scale falls first, then its mantissa grows. -/
def scaleUp? (d : Decimal) (exponent : Nat) : Option Decimal :=
  if exponent ≤ d.scale then ofParts? d.negative d.mantissa (d.scale - exponent)
  else if 28 < exponent then none
  else ofParts? d.negative (d.mantissa * 10 ^ (exponent - d.scale)) 0

/-- The decimal divided by `10 ^ exponent`: its scale grows, and the digits that find no room in twenty-eight of them
round half up at the first that is dropped. -/
def scaleDown? (d : Decimal) (exponent : Nat) : Option Decimal :=
  if 28 < exponent then none
  else
    let (mantissa, scale) := rescale d.mantissa d.scale (min d.scale (28 - exponent))
    ofParts? d.negative mantissa (scale + exponent)

/-- A decimal and an exponent after the first letter `e`. -/
def readScientific? (s : List Char) : Option Decimal :=
  let isMark := fun c => c == 'e' || c == 'E'
  match s.dropWhile (!isMark ·) with
  | [] => none
  | _ :: exponent => do
    let d ← readPlain? (s.takeWhile (!isMark ·))
    match exponent with
    | '-' :: e => scaleDown? d (← readUnsigned? e)
    | e => scaleUp? d (← readUnsigned? e)

/-- A decimal in plain form, else in scientific form. -/
def read? (s : List Char) : Option Decimal :=
  readPlain? s <|> readScientific? s

end TypedSql.Decimal
