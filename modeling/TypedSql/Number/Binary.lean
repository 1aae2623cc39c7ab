import TypedSql.Number.Power

/-!
# Binary floating-point numbers

* `Format`: the widths of a binary interchange format; `Format.single` and `Format.double`.
* `Binary f`: a number of format `f` by its three fields, infinities and not-a-numbers included.
* `Binary.significand`, `Binary.scale`: a finite number is `± significand · 2 ^ scale`.
* `Binary.toBits`, `Binary.ofBits`: the fields as one word.
* `Binary.ofRatio`: the nearest number to a ratio, a tie going to the even neighbour.
* `Binary.narrow`, `Binary.widen`: between single and double.
-/

namespace TypedSql

/-- The field widths of a binary interchange format. -/
structure Format where
  fractionBits : Nat
  exponentBits : Nat

namespace Format

/-- Four bytes: eight bits of exponent and twenty-three of fraction. -/
def single : Format := ⟨23, 8⟩

/-- Eight bytes: eleven bits of exponent and fifty-two of fraction. -/
def double : Format := ⟨52, 11⟩

/-- The exponent field of infinities and not-a-numbers. -/
def topExponent (f : Format) : Nat := 2 ^ f.exponentBits - 1

/-- What the exponent field of a number in `[1, 2)` holds. -/
def bias (f : Format) : Nat := 2 ^ (f.exponentBits - 1) - 1

/-- The power of two that the smallest positive number is. -/
def leastScale (f : Format) : Int := 1 - f.bias - f.fractionBits

end Format

/-- A number of format `f`: its sign, its biased exponent and the bits of its fraction. -/
structure Binary (f : Format) where
  negative : Bool
  exponent : Fin (2 ^ f.exponentBits)
  fraction : Fin (2 ^ f.fractionBits)
deriving DecidableEq

/-- A number in four bytes. -/
abbrev Single := Binary .single

/-- A number in eight bytes. -/
abbrev Double := Binary .double

namespace Binary
variable {f : Format}

/-! ## Fields and bits -/

/-- The number with sign `negative` whose exponent and fraction, read as one number, are `m`. -/
def ofMagnitude (f : Format) (negative : Bool) (m : Nat) : Binary f where
  negative := negative
  exponent := ⟨m / 2 ^ f.fractionBits % 2 ^ f.exponentBits, Nat.mod_lt _ (Nat.two_pow_pos _)⟩
  fraction := ⟨m % 2 ^ f.fractionBits, Nat.mod_lt _ (Nat.two_pow_pos _)⟩

/-- Exponent and fraction read as one number, which grows with the absolute value. -/
def magnitude (x : Binary f) : Nat :=
  x.exponent.val * 2 ^ f.fractionBits + x.fraction.val

/-- The number whose bits, from the sign down, are `n`. -/
def ofBits (f : Format) (n : Nat) : Binary f :=
  ofMagnitude f (n / 2 ^ (f.exponentBits + f.fractionBits) % 2 == 1) n

/-- The bits of a number, from the sign down. -/
def toBits (x : Binary f) : Nat :=
  (if x.negative then 2 ^ (f.exponentBits + f.fractionBits) else 0) + x.magnitude

def infinity (f : Format) (negative : Bool) : Binary f :=
  ofMagnitude f negative (f.topExponent * 2 ^ f.fractionBits)

def zero (f : Format) (negative : Bool) : Binary f :=
  ofMagnitude f negative 0

/-- The quiet not-a-number with no payload. -/
def quietNaN (f : Format) (negative : Bool) : Binary f :=
  ofMagnitude f negative (f.topExponent * 2 ^ f.fractionBits + 2 ^ (f.fractionBits - 1))

/-! ## Classes and values -/

/-- A number that is neither infinite nor not-a-number. -/
def isFinite (x : Binary f) : Bool :=
  x.exponent.val != f.topExponent

def isNaN (x : Binary f) : Bool :=
  x.exponent.val == f.topExponent && x.fraction.val != 0

def isZero (x : Binary f) : Bool :=
  x.exponent.val == 0 && x.fraction.val == 0

/-- The integer that the fraction and the hidden bit are. -/
def significand (x : Binary f) : Nat :=
  if x.exponent.val = 0 then x.fraction.val else 2 ^ f.fractionBits + x.fraction.val

/-- The power of two that the significand counts. -/
def scale (x : Binary f) : Int :=
  (x.exponent.val - 1 : Nat) + f.leastScale

/-- `n`, or its opposite for a negative sign. -/
def signed (negative : Bool) (n : Nat) : Int :=
  if negative then -(n : Int) else n

/-- The absolute value of a finite number without its fractional part. -/
def truncated (x : Binary f) : Nat :=
  if 0 ≤ x.scale then x.significand * 2 ^ x.scale.toNat else x.significand / 2 ^ (-x.scale).toNat

/-- A finite number without a fractional part. -/
def isIntegral (x : Binary f) : Bool :=
  x.isFinite && (decide (0 ≤ x.scale) || x.significand % 2 ^ (-x.scale).toNat == 0)

/-- The integer that an integral number is. -/
def toInt? (x : Binary f) : Option Int :=
  if x.isIntegral then some (signed x.negative x.truncated) else none

/-! ## Rounding -/

/-- The quotient to the nearest integer, a tie going to the even one. -/
def divNearest (n d : Nat) : Nat :=
  let q := n / d
  let r := n % d
  if 2 * r < d then q
  else if d < 2 * r then q + 1
  else if q % 2 = 0 then q else q + 1

/-- The greatest `k` with `2 ^ k ≤ n / d`, for positive `n` and `d`. -/
def ratioLog2 (n d : Nat) : Int :=
  let k : Int := (Nat.log2 n : Int) - Nat.log2 d
  if d * 2 ^ k.toNat ≤ n * 2 ^ (-k).toNat then k else k - 1

/-- The number of format `f` nearest to `± n / d`. -/
def ofRatio (f : Format) (negative : Bool) (n d : Nat) : Binary f :=
  if n = 0 then zero f negative
  else
    let e := max (ratioLog2 n d - f.fractionBits) f.leastScale
    let q := divNearest (n * 2 ^ (-e).toNat) (d * 2 ^ e.toNat)
    let m := (e - f.leastScale).toNat * 2 ^ f.fractionBits + q
    if f.topExponent * 2 ^ f.fractionBits ≤ m then infinity f negative else ofMagnitude f negative m

/-- The number nearest to an integer. -/
def ofInt (f : Format) (n : Int) : Binary f :=
  ofRatio f (decide (n < 0)) n.natAbs 1

/-- The number nearest to `± digits · 10 ^ exponent`. Beyond the exponents that are cut off here, all numbers
are infinite or zero. -/
def ofDecimal (negative : Bool) (digits : Nat) (exponent : Int) : Double :=
  if digits = 0 then zero .double negative
  else
    let leading : Int := (Nat.toDigits 10 digits).length + exponent
    if 400 < leading then infinity .double negative
    else if leading < -400 then zero .double negative
    else ofRatio .double negative (digits * 10 ^ exponent.toNat) (10 ^ (-exponent).toNat)

/-- The single nearest to a double; a not-a-number keeps the head of its payload and becomes quiet. -/
def narrow (x : Double) : Single :=
  if x.isNaN then
    ofMagnitude .single x.negative
      (Format.single.topExponent * 2 ^ 23 + 2 ^ 22 + x.fraction.val / 2 ^ 29 % 2 ^ 22)
  else if !x.isFinite then infinity .single x.negative
  else ofRatio .single x.negative (x.significand * 2 ^ x.scale.toNat) (2 ^ (-x.scale).toNat)

/-- The double with the value of a single; a not-a-number keeps its payload and becomes quiet. -/
def widen (x : Single) : Double :=
  if x.isNaN then
    ofMagnitude .double x.negative
      (Format.double.topExponent * 2 ^ 52 + 2 ^ 51 + x.fraction.val % 2 ^ 22 * 2 ^ 29)
  else if !x.isFinite then infinity .double x.negative
  else ofRatio .double x.negative (x.significand * 2 ^ x.scale.toNat) (2 ^ (-x.scale).toNat)

end Binary

end TypedSql
