import TypedSql.Number.Decimal
import TypedSql.Wire.Bytes

/-!
# Exact decimals as groups of four digits

* `Wire.numericBytes`: a decimal as a count, a weight, a sign, a scale and groups in base ten thousand.
* `Wire.readNumeric?`: the decimal of such bytes.
-/

namespace TypedSql.Wire

/-! ## Writing -/

/-- The digits of a number in base ten thousand, the highest first; zero has none. -/
def groups (n : Nat) : List Nat :=
  if n = 0 then [] else groups (n / 10000) ++ [n % 10000]
termination_by n
decreasing_by omega

/-- The number of groups that `scale` fraction digits take up. -/
def fractionGroups (scale : Nat) : Nat :=
  (scale + 3) / 4

/-- The groups of a decimal, its last one padded with zeros. -/
def decimalGroups (d : Decimal) : List Nat :=
  groups (d.mantissa * 10 ^ (4 * fractionGroups d.scale - d.scale))

/-- The power of ten thousand that the first group counts. -/
def weight (d : Decimal) : Int :=
  (decimalGroups d).length - (fractionGroups d.scale : Int) - 1

/-- The groups that are written: where there are integer groups, zeros at the end of the fraction are left out. -/
def writtenGroups (d : Decimal) : List Nat :=
  let gs := decimalGroups d
  if weight d < 0 then gs
  else
    let whole := (weight d + 1).toNat
    gs.take whole ++ ((gs.drop whole).reverse.dropWhile (· == 0)).reverse

/-- The bytes of a decimal; a zero has no groups, no sign and no scale. -/
def numericBytes (d : Decimal) : List UInt8 :=
  if d.mantissa = 0 then bytes 8 0
  else
    let gs := writtenGroups d
    bytes 2 gs.length ++ signedBytes 2 (weight d) ++ bytes 2 (if d.negative then 0x4000 else 0) ++
      bytes 2 d.scale ++ gs.flatMap (bytes 2)

/-! ## Reading -/

/-- The decimal `mantissa / 10 ^ scale` with as many fraction digits as ninety-six bits hold, a tie going to the even
neighbour. -/
def hold? (mantissa scale : Nat) : Option (Nat × Nat) :=
  ((List.range (scale + 1)).find? fun k => Binary.divNearest mantissa (10 ^ k) < 2 ^ 96).map fun k =>
    (Binary.divNearest mantissa (10 ^ k), scale - k)

/-- The sum of two decimals, each a mantissa and a scale. -/
def add? (a b : Nat × Nat) : Option (Nat × Nat) :=
  let scale := max a.2 b.2
  hold? (a.1 * 10 ^ (scale - a.2) + b.1 * 10 ^ (scale - b.2)) scale

/-- The number of integer groups, if ninety-six bits hold it at every step. -/
def integerPart? (gs : List Nat) : Option Nat :=
  gs.foldlM
    (fun n g => if 10000 * n < 2 ^ 96 ∧ 10000 * n + g < 2 ^ 96 then some (10000 * n + g) else none)
    0

/-- A group that ends `places` digits after the point. Twenty-eight digits are kept, and the group after them rounds
the last one. -/
def addFraction? (sum : Nat × Nat) (g places : Nat) : Option (Nat × Nat) :=
  if places ≤ 28 then add? sum (g, places)
  else if places = 32 ∧ 5000 ≤ g then add? sum (1, 28)
  else some sum

/-- Fraction groups from the one on that ends `places` digits after the point. -/
def addFractions? (sum : Nat × Nat) (places : Nat) : List Nat → Option (Nat × Nat)
  | [] => some sum
  | g :: gs => do addFractions? (← addFraction? sum g places) (places + 4) gs

/-- The decimal of groups with a weight, brought to a scale of at most twenty-eight digits. -/
def ofGroups? (negative : Bool) (weight : Int) (scale : Nat) (gs : List Nat) : Option Decimal := do
  let wholeCount := (weight + 1).toNat
  let whole := gs.take wholeCount
  let absent := wholeCount - whole.length
  let n ← integerPart? whole
  if 2 ^ 96 ≤ 10 ^ (4 * absent) ∨ 2 ^ 96 ≤ n * 10 ^ (4 * absent) then none
  else
    let skipped := (-weight - 1).toNat
    let (m, s) ← addFractions? (n * 10 ^ (4 * absent), 0) (4 * (skipped + 1)) (gs.drop wholeCount)
    let (m, s) := Decimal.rescale m s (min scale 28)
    Decimal.ofParts? negative m s

/-- The first `count` numbers of two bytes. -/
def pairs? : Nat → List UInt8 → Option (List Nat)
  | 0, _ => some []
  | count + 1, a :: b :: rest => (pairs? count rest).map (nat [a, b] :: ·)
  | _ + 1, _ => none

/-- The decimal of the bytes of a cell; special values and missing groups have none. -/
def readNumeric? (bs : List UInt8) : Option Decimal := do
  match ← pairs? 4 bs with
  | [count, weight, sign, scale] =>
    if sign / 0x4000 = 3 then none
    else
      let gs ← pairs? count (bs.drop 8)
      ofGroups? (sign == 0x4000) (if weight < 0x8000 then (weight : Int) else weight - 0x10000) scale gs
  | _ => none

end TypedSql.Wire
