import TypedSql.Number.Signed
import TypedSql.Wire.Bytes

/-!
# Integers read back from their bytes

* `Wire.signed?_bytes` : a natural number below half of what the bytes hold;
* `Wire.signed?_signedBytes` : an integer in two's complement, if so many bytes hold it;
* `Wire.signed?_signedBytes_val` : the integer of a word of as many bytes.
-/

namespace TypedSql.Wire

theorem signed?_bytes {count n : Nat} (h : 2 * n < 256 ^ count) : signed? count (bytes count n) = some (n : Int) := by
  have hmod : n % 256 ^ count = n := Nat.mod_eq_of_lt (by omega)
  unfold signed?
  rw [if_pos (length_bytes count n), nat_bytes, hmod]
  exact congrArg some (if_pos h)

theorem signed?_bytes_of_le {count n : Nat} (h : 256 ^ count ≤ 2 * n) (hn : n < 256 ^ count) :
    signed? count (bytes count n) = some ((n : Int) - (256 ^ count : Nat)) := by
  have hmod : n % 256 ^ count = n := Nat.mod_eq_of_lt hn
  unfold signed?
  rw [if_pos (length_bytes count n), nat_bytes, hmod]
  exact congrArg some (if_neg (by omega))

theorem signed?_signedBytes {count : Nat} {n : Int} (hlow : -(256 ^ count : Nat) ≤ 2 * n)
    (hhigh : 2 * n < (256 ^ count : Nat)) : signed? count (signedBytes count n) = some n := by
  have hpos : 0 < 256 ^ count := Nat.pow_pos (by decide)
  have hcast : (256 : Int) ^ count = (256 ^ count : Nat) := by simp
  unfold signedBytes
  rw [hcast]
  by_cases h : 0 ≤ n
  · have hmod : n % (256 ^ count : Nat) = n := Int.emod_eq_of_lt h (by omega)
    rw [hmod, signed?_bytes (by omega), Int.toNat_of_nonneg h]
  · -- the word of a negative number is the number one turn further
    have hturn : n % (256 ^ count : Nat) = n + (256 ^ count : Nat) := by
      rw [← Int.add_emod_right, Int.emod_eq_of_lt (by omega) (by omega)]
    rw [hturn, signed?_bytes_of_le (by omega) (by omega), Int.toNat_of_nonneg (by omega)]
    exact congrArg some (by omega)

theorem signed?_signedBytes_val {count bits : Nat} (hbits : 2 * 2 ^ (bits - 1) = 256 ^ count) (n : Signed bits) :
    signed? count (signedBytes count n.val) = some n.val := by
  have hcast : (2 : Int) ^ (bits - 1) = (2 ^ (bits - 1) : Nat) := by simp
  have hlow := n.low_le
  have hhigh := n.lt_high
  rw [hcast] at hlow hhigh
  exact signed?_signedBytes (by omega) (by omega)

end TypedSql.Wire
