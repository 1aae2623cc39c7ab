import TypedSql.Number.Numeral

/-!
# Exact decimals of ninety-six bits

* `Decimal`: a sign, a mantissa below `2 ^ 96` and a scale of at most twenty-eight fraction digits.
* `Decimal.ofParts?`: the decimal with given parts, if they are in range.
* `Decimal.rescale`: another number of fraction digits; the first that is dropped rounds half up.
* `Decimal.text`: all its fraction digits are written, trailing zeros included.
-/

namespace TypedSql

/-- The decimal `± mantissa / 10 ^ scale`; its scale is part of it, so that `1.5` and `1.50` differ. -/
structure Decimal where
  negative : Bool
  mantissa : Nat
  scale : Nat
  mantissa_lt : mantissa < 2 ^ 96
  scale_le : scale ≤ 28
deriving DecidableEq

namespace Decimal

/-- The decimal with these parts, if mantissa and scale are in range. -/
def ofParts? (negative : Bool) (mantissa scale : Nat) : Option Decimal :=
  if h : mantissa < 2 ^ 96 ∧ scale ≤ 28 then some ⟨negative, mantissa, scale, h.1, h.2⟩ else none

/-- Zero without fraction digits, of either sign. -/
def zero (negative : Bool) : Decimal :=
  ⟨negative, 0, 0, by decide, by decide⟩

/-- An integer, if it fits; all integers of sixty-four bits do. -/
def ofInt? (n : Int) : Option Decimal :=
  ofParts? (decide (n < 0)) n.natAbs 0

/-! ## Scales -/

/-- As many more fraction digits, at most `n`, as ninety-six bits hold. -/
def pad (m scale : Nat) : Nat → Nat × Nat
  | 0 => (m, scale)
  | n + 1 => if 10 * m < 2 ^ 96 then pad (10 * m) (scale + 1) n else (m, scale)

/-- The mantissa and scale with `wanted` fraction digits, rounded half up at the first that is dropped. -/
def rescale (m scale wanted : Nat) : Nat × Nat :=
  if scale ≤ wanted then if m = 0 then (0, wanted) else pad m scale (wanted - scale)
  else
    let k := scale - wanted
    (m / 10 ^ k + (if 5 ≤ m / 10 ^ (k - 1) % 10 then 1 else 0), wanted)

/-! ## Text -/

/-- The digits of `mantissa`, at least one more than `scale`, with the point before the last `scale` of them. -/
def pointedText (mantissa scale : Nat) : List Char :=
  let ds := Nat.toDigits 10 mantissa
  let padded := List.replicate (scale + 1 - ds.length) '0' ++ ds
  let whole := padded.length - scale
  padded.take whole ++ if scale = 0 then [] else '.' :: padded.drop whole

/-- The written decimal. A zero can carry a minus sign. -/
def text (d : Decimal) : String :=
  String.ofList ((if d.negative then ['-'] else []) ++ pointedText d.mantissa d.scale)

theorem ofParts?_eq_some {negative : Bool} {m s : Nat} {d : Decimal} (h : ofParts? negative m s = some d) :
    d.negative = negative ∧ d.mantissa = m ∧ d.scale = s := by
  unfold ofParts? at h
  split at h
  · cases h; exact ⟨rfl, rfl, rfl⟩
  · cases h

end Decimal

end TypedSql
