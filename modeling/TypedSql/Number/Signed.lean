import TypedSql.Number.Power

/-!
# Integers of a fixed width

* `Signed bits`: the integers that a two's complement word of `bits` bits holds.
* `Signed.ofInt?`: an integer, if the word holds it.
-/

namespace TypedSql

/-- An integer from `-2 ^ (bits - 1)` to below `2 ^ (bits - 1)`. -/
structure Signed (bits : Nat) where
  val : Int
  low_le : -2 ^ (bits - 1) ≤ val
  lt_high : val < 2 ^ (bits - 1)
deriving DecidableEq

namespace Signed

/-- An integer, if the word holds it. -/
def ofInt? (bits : Nat) (n : Int) : Option (Signed bits) :=
  if h : -2 ^ (bits - 1) ≤ n ∧ n < 2 ^ (bits - 1) then some ⟨n, h.1, h.2⟩ else none

/-- One for true and zero for false. -/
def ofBool (b : Bool) : Signed 64 :=
  if b then ⟨1, by decide, by decide⟩ else ⟨0, by decide, by decide⟩

/-- The nearest integer that the word holds. -/
def clamp (n : Int) : Signed 64 :=
  if low : n < -2 ^ 63 then ⟨-2 ^ 63, by decide, by decide⟩
  else if high : 2 ^ 63 ≤ n then ⟨2 ^ 63 - 1, by decide, by decide⟩
  else ⟨n, Int.not_lt.1 low, Int.not_le.1 high⟩

theorem ofInt?_eq_some_iff {bits : Nat} {n : Int} {w : Signed bits} : ofInt? bits n = some w ↔ w.val = n := by
  unfold ofInt?
  split
  · next h =>
    constructor
    · rintro ⟨⟩; rfl
    · intro e; cases w; cases e; rfl
  · next h =>
    constructor
    · rintro ⟨⟩
    · intro e; exact absurd ⟨e ▸ w.low_le, e ▸ w.lt_high⟩ h

end Signed

end TypedSql
