import TypedSql.Number.Power

/-!
# Integers as bytes

* `Wire.bytes`, `Wire.nat`: a natural number as bytes, the highest first, and back.
* `Wire.signedBytes`, `Wire.signed?`: an integer in two's complement, and back.
-/

namespace TypedSql.Wire

/-- The lowest `count` bytes of a number, the highest first. -/
def bytes : Nat → Nat → List UInt8
  | 0, _ => []
  | count + 1, n => bytes count (n / 256) ++ [UInt8.ofNat (n % 256)]

/-- The number that bytes write, the highest first. -/
def nat (bs : List UInt8) : Nat :=
  bs.foldl (fun n b => n * 256 + b.toNat) 0

/-- An integer in `count` bytes, negative ones in two's complement. -/
def signedBytes (count : Nat) (n : Int) : List UInt8 :=
  bytes count (n % 256 ^ count).toNat

/-- The integer that exactly `count` bytes write in two's complement. -/
def signed? (count : Nat) (bs : List UInt8) : Option Int :=
  if bs.length = count then
    let n := nat bs
    some (if 2 * n < 256 ^ count then (n : Int) else (n : Int) - (256 ^ count : Nat))
  else none

theorem length_bytes (count n : Nat) : (bytes count n).length = count := by
  induction count generalizing n with
  | zero => rfl
  | succ count ih => simp [bytes, ih]

theorem nat_append (bs : List UInt8) (b : UInt8) : nat (bs ++ [b]) = nat bs * 256 + b.toNat := by
  simp [nat]

theorem nat_bytes (count n : Nat) : nat (bytes count n) = n % 256 ^ count := by
  induction count generalizing n with
  | zero => simp [bytes, nat, Nat.mod_one]
  | succ count ih =>
    have h : n % 256 < 2 ^ 8 := Nat.mod_lt n (by decide)
    rw [bytes, nat_append, ih, UInt8.toNat_ofNat', Nat.mod_eq_of_lt h, Nat.pow_succ, Nat.mul_comm (256 ^ count),
      Nat.mod_mul]
    omega

end TypedSql.Wire
