import TypedSql.Number.Decimal

/-!
# Decimals of floating-point numbers

A double `m · 2 ^ e` becomes a decimal by trading powers of two for powers of ten, in a register of ninety-six
bits that drops low digits when it is full, and is then cut to about fifteen significant digits.

* `Register`: a mantissa and its power of ten.
* `Decimal.ofDouble?`: the decimal of a finite double.
-/

namespace TypedSql.Decimal

/-- The number `mantissa · 10 ^ power`. -/
structure Register where
  mantissa : Nat
  power : Int

namespace Register

/-- Division by `2 ^ n`: halve even mantissas, and multiply odd ones by five while there is room. -/
def halve (r : Register) : Nat → Register
  | 0 => r
  | n + 1 =>
    let r' : Register :=
      if r.mantissa % 2 = 0 then ⟨r.mantissa / 2, r.power + 1⟩
      else if 5 * r.mantissa < 2 ^ 96 then ⟨5 * r.mantissa, r.power⟩
      else ⟨r.mantissa / 2, r.power + 1⟩
    halve r' n

/-- Multiplication by `2 ^ n`, the power of ten having been raised by `n`: double the mantissa while there is room,
then divide it by five. It gives up once too much of the power is left. -/
def double? (r : Register) : Nat → Option Register
  | 0 => some r
  | n + 1 =>
    if r.mantissa < 2 ^ 95 then double? ⟨2 * r.mantissa, r.power - 1⟩ n
    else if n + 1 < 2 * r.power then none
    else double? ⟨r.mantissa / 5, r.power⟩ n

/-- Multiplication by `10 ^ n` while the mantissa fits. -/
def expand? (m : Nat) : Nat → Option Nat
  | 0 => some m
  | n + 1 => if 10 * m < 2 ^ 96 then expand? (10 * m) n else none

/-- One digit less, rounded half up. -/
def dropDigit (r : Register) : Register :=
  ⟨r.mantissa / 10 + (if 5 ≤ r.mantissa % 10 then 1 else 0), r.power + 1⟩

/-- `n` digits less; a mantissa that runs out of digits is zero. -/
def dropDigits (r : Register) : Nat → Register
  | 0 => r
  | n + 1 => if r.mantissa < 10 then ⟨0, 0⟩ else dropDigits r.dropDigit n

/-- Fraction digits less, at most `n`, while the mantissa has more than fifty-two bits. -/
def significant (r : Register) : Nat → Register
  | 0 => r
  | n + 1 => if r.mantissa < 2 ^ 52 then r else significant r.dropDigit n

/-- Without trailing fraction zeros, of which there are at most `n`. -/
def stripped (r : Register) : Nat → Register
  | 0 => r
  | n + 1 => if r.mantissa % 10 = 0 then stripped ⟨r.mantissa / 10, r.power + 1⟩ n else r

/-- A register with at most twenty-eight fraction digits and no power of ten above that. -/
def settled? (r : Register) : Option Register :=
  if 0 ≤ r.power then (expand? r.mantissa r.power.toNat).map (⟨·, 0⟩)
  else some (r.dropDigits (-28 - r.power).toNat)

end Register

/-- The decimal of a finite double, if it fits; its sign stays even where its digits are lost. -/
def ofDouble? (x : Double) : Option Decimal := do
  if !x.isFinite then none
  else if x.isZero then some (zero x.negative)
  else
    let start : Register := ⟨x.significand, x.scale⟩
    let r ← if 0 ≤ x.scale then start.double? x.scale.toNat else some (start.halve (-x.scale).toNat)
    let r ← r.settled?
    let r := r.significant (-r.power).toNat
    let r := r.stripped (-r.power).toNat
    ofParts? x.negative r.mantissa (-r.power).toNat

end TypedSql.Decimal
