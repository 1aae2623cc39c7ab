import TypedSql.Number.Binary

/-!
# The shortest decimal that reads back

* `Digits`: a decimal by its integer of digits and its power of ten.
* `Tie`: which of two equally near decimals is taken.
* `Interval`: the reals that round to a given number, in a common unit.
* `shortest`: among the decimals that round to a number, the nearest of those with the fewest digits.
-/

namespace TypedSql

/-- The decimal `digits · 10 ^ exponent`. -/
structure Digits where
  digits : Nat
  exponent : Int
deriving DecidableEq

/-- Which of two equally near neighbours is taken: the one with the even digit, or the greater. -/
inductive Tie where
  | even
  | up
deriving DecidableEq

namespace Shortest

/-- The reals that round to a number, counted in quarters of its unit: from `low` to `high`, ends included when
`closed`, the number itself at `mid`. -/
structure Interval where
  low : Nat
  mid : Nat
  high : Nat
  closed : Bool

/-- The interval of a positive finite number. Below a power of two the next number is half as far away. -/
def interval (x : Double) : Interval where
  low := 4 * x.significand - (if x.fraction.val = 0 ∧ 1 < x.exponent.val then 1 else 2)
  mid := 4 * x.significand
  high := 4 * x.significand + 2
  closed := x.significand % 2 == 0

/-- Whether `c · unit` lies in the interval when a quarter counts `quarter`. -/
def Interval.contains (i : Interval) (quarter unit c : Nat) : Bool :=
  let v := c * unit
  if i.closed then decide (i.low * quarter ≤ v) && decide (v ≤ i.high * quarter)
  else decide (i.low * quarter < v) && decide (v < i.high * quarter)

/-- The point of the grid `10 ^ j` that is nearest to the number among its two neighbours inside the interval. -/
def onGrid? (tie : Tie) (i : Interval) (scale j : Int) : Option Nat :=
  let quarter := 2 ^ (scale - 2).toNat * 10 ^ (-j).toNat
  let unit := 2 ^ (2 - scale).toNat * 10 ^ j.toNat
  let below := i.mid * quarter / unit
  let rest := i.mid * quarter % unit
  match i.contains quarter unit below, i.contains quarter unit (below + 1) with
  | false, false => none
  | true, false => some below
  | false, true => some (below + 1)
  | true, true =>
    if 2 * rest < unit then some below
    else if unit < 2 * rest then some (below + 1)
    else
      match tie with
      | .up => some (below + 1)
      | .even => if below % 2 = 0 then some below else some (below + 1)

/-- The first hit on the grids `10 ^ j`, `10 ^ (j - 1)`, …, of which `grids` are tried. -/
def search (tie : Tie) (i : Interval) (scale : Int) : Nat → Int → Digits
  | 0, j => ⟨0, j⟩
  | grids + 1, j =>
    match onGrid? tie i scale j with
    | some c => ⟨c, j⟩
    | none => search tie i scale grids (j - 1)

end Shortest

/-- The decimal with the fewest digits that rounds to the positive finite `x`, the nearest one of those. The
search starts above the first digit, and seventeen digits always suffice. -/
def shortest (tie : Tie) (x : Double) : Digits :=
  let top : Int := ((Nat.log2 x.significand + 1 : Nat) + x.scale) * 30103 / 100000 + 1
  Shortest.search tie (Shortest.interval x) x.scale 22 top

end TypedSql
