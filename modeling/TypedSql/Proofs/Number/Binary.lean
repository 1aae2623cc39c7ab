import Mathlib.Data.Int.Log
import Mathlib.Data.Rat.Floor
import Mathlib.Tactic.Positivity
import Mathlib.Tactic.Ring
import TypedSql.Number.Binary

/-!
# The values of binary numbers

* `Binary.absValue` : the absolute value of a finite number;
* `ratioLog2_eq_log` : the exponent of a ratio is its logarithm, cut to an integer;
* `ofRatio_eq` : a ratio that is the absolute value of a finite number is rounded to that number;
* `ofBits_toBits` : a number is read back from its bits;
* `sameNumber_widen` : a single is the same number as a double;
* `narrow_widen` : a finite single is what becomes of it as a double, narrowed again;
* `toInt?_eq_some_iff` : the integer of a finite number is its value;
* `value_ofInt` : an integer of few enough significant bits is rounded to itself.
-/

namespace TypedSql.Binary
variable {f : Format}

/-! ## Powers of two -/

theorem zpow_mul_toNat {b : ℚ} (hb : b ≠ 0) (k : ℤ) : b ^ k * b ^ (-k).toNat = b ^ k.toNat := by
  rw [← zpow_natCast, ← zpow_natCast, ← zpow_add₀ hb]
  congr 1
  omega

theorem two_zpow_mul (k : ℤ) : (2 : ℚ) ^ k * (2 : ℚ) ^ (-k).toNat = (2 : ℚ) ^ k.toNat :=
  zpow_mul_toNat (by decide) k

/-- A comparison without negative exponents. -/
theorem le_shift_iff {n d : Nat} (hd : 0 < d) (k : ℤ) :
    d * 2 ^ k.toNat ≤ n * 2 ^ (-k).toNat ↔ (2 : ℚ) ^ k ≤ (n : ℚ) / d := by
  have hpos : (0 : ℚ) < d := by exact_mod_cast hd
  have hpow : (0 : ℚ) < (2 : ℚ) ^ (-k).toNat := by positivity
  rw [le_div_iff₀ hpos, ← Nat.cast_le (α := ℚ)]
  push_cast
  rw [← two_zpow_mul, ← mul_assoc, mul_le_mul_iff_left₀ hpow, mul_comm]

theorem log2_bounds {n : Nat} (hn : 0 < n) : (2 : ℚ) ^ (n.log2 : ℤ) ≤ n ∧ (n : ℚ) < 2 ^ ((n.log2 : ℤ) + 1) := by
  have hle := Nat.log2_self_le (Nat.pos_iff_ne_zero.1 hn)
  have hlt := @Nat.lt_log2_self n
  constructor
  · rw [zpow_natCast]
    exact_mod_cast hle
  · have hcast : ((n.log2 : ℤ) + 1) = ((n.log2 + 1 : ℕ) : ℤ) := by push_cast; rfl
    rw [hcast, zpow_natCast]
    exact_mod_cast hlt

theorem ratioLog2_eq_log {n d : Nat} (hn : 0 < n) (hd : 0 < d) : ratioLog2 n d = Int.log 2 ((n : ℚ) / d) := by
  have hn' : (0 : ℚ) < n := by exact_mod_cast hn
  have hd' : (0 : ℚ) < d := by exact_mod_cast hd
  have hv : (0 : ℚ) < (n : ℚ) / d := div_pos hn' hd'
  obtain ⟨hn1, hn2⟩ := log2_bounds hn
  obtain ⟨hd1, hd2⟩ := log2_bounds hd
  have hlow : (n.log2 : ℤ) - d.log2 - 1 ≤ Int.log 2 ((n : ℚ) / d) := by
    rw [← Int.zpow_le_iff_le_log (by decide) hv, le_div_iff₀ hd', Nat.cast_ofNat]
    calc (2 : ℚ) ^ ((n.log2 : ℤ) - d.log2 - 1) * d
      _ ≤ (2 : ℚ) ^ ((n.log2 : ℤ) - d.log2 - 1) * 2 ^ ((d.log2 : ℤ) + 1) :=
        mul_le_mul_of_nonneg_left hd2.le (zpow_nonneg (by decide) _)
      _ = (2 : ℚ) ^ (n.log2 : ℤ) := by
        rw [← zpow_add₀ (by decide)]
        congr 1
        omega
      _ ≤ n := hn1
  have hhigh : Int.log 2 ((n : ℚ) / d) < (n.log2 : ℤ) - d.log2 + 1 := by
    rw [← Int.lt_zpow_iff_log_lt (by decide) hv, div_lt_iff₀ hd', Nat.cast_ofNat]
    calc (n : ℚ)
      _ < (2 : ℚ) ^ ((n.log2 : ℤ) + 1) := hn2
      _ = (2 : ℚ) ^ ((n.log2 : ℤ) - d.log2 + 1) * 2 ^ (d.log2 : ℤ) := by
        rw [← zpow_add₀ (by decide)]
        congr 1
        omega
      _ ≤ (2 : ℚ) ^ ((n.log2 : ℤ) - d.log2 + 1) * d := mul_le_mul_of_nonneg_left hd1 (zpow_nonneg (by decide) _)
  unfold ratioLog2
  dsimp only
  have hcheck := le_shift_iff (n := n) hd ((n.log2 : ℤ) - d.log2)
  have hlog := Int.zpow_le_iff_le_log (b := 2) (by decide) hv (x := (n.log2 : ℤ) - d.log2)
  rw [Nat.cast_ofNat, ← hcheck] at hlog
  split
  · next h =>
    have hle := hlog.1 h
    omega
  · next h =>
    have hnot := fun hle => h (hlog.2 hle)
    omega

/-! ## Values -/

/-- The absolute value of a finite number. -/
def absValue (x : Binary f) : ℚ :=
  x.significand * 2 ^ x.scale

theorem absValue_eq_div (x : Binary f) :
    ((x.significand * 2 ^ x.scale.toNat : Nat) : ℚ) / (2 ^ (-x.scale).toNat : Nat) = x.absValue := by
  have hpow : (0 : ℚ) < (2 : ℚ) ^ (-x.scale).toNat := by positivity
  unfold absValue
  push_cast
  rw [div_eq_iff hpow.ne', mul_assoc, two_zpow_mul]

theorem significand_lt (x : Binary f) : x.significand < 2 ^ (f.fractionBits + 1) := by
  have hx := x.fraction.isLt
  unfold significand
  rw [Nat.pow_succ]
  split <;> omega

/-- The logarithm of a number is that of its significand, moved by its scale. -/
theorem log_absValue {x : Binary f} (hx : x.significand ≠ 0) :
    Int.log 2 x.absValue = x.significand.log2 + x.scale := by
  obtain ⟨hlow, hhigh⟩ := log2_bounds (Nat.pos_iff_ne_zero.2 hx)
  have hscale : (0 : ℚ) < 2 ^ x.scale := zpow_pos (by decide) _
  have hs : (0 : ℚ) < x.significand := by exact_mod_cast Nat.pos_iff_ne_zero.2 hx
  have hv : 0 < x.absValue := mul_pos hs hscale
  have hle : (x.significand.log2 : ℤ) + x.scale ≤ Int.log 2 x.absValue := by
    rw [← Int.zpow_le_iff_le_log (by decide) hv, Nat.cast_ofNat, zpow_add₀ (by decide)]
    exact mul_le_mul_of_nonneg_right hlow hscale.le
  have hlt : Int.log 2 x.absValue < (x.significand.log2 : ℤ) + 1 + x.scale := by
    rw [← Int.lt_zpow_iff_log_lt (by decide) hv, Nat.cast_ofNat, zpow_add₀ (by decide)]
    exact mul_lt_mul_of_pos_right hhigh hscale
  omega

/-- The exponent that rounding gives to the value of a number is that of the number. -/
theorem max_log_absValue {x : Binary f} (hx : x.significand ≠ 0) :
    max (Int.log 2 x.absValue - f.fractionBits) f.leastScale = x.scale := by
  rw [log_absValue hx]
  by_cases he : x.exponent.val = 0
  · have hs : x.significand.log2 < f.fractionBits := by
      rw [Nat.log2_lt hx, significand, if_pos he]
      exact x.fraction.isLt
    have hscale : x.scale = f.leastScale := by
      rw [scale, he]
      omega
    omega
  · have hs : 2 ^ f.fractionBits ≤ x.significand := by
      rw [significand, if_neg he]
      omega
    have hlow : f.fractionBits ≤ x.significand.log2 := (Nat.le_log2 hx).2 hs
    have hhigh : x.significand.log2 < f.fractionBits + 1 := (Nat.log2_lt hx).2 x.significand_lt
    have hscale : f.leastScale ≤ x.scale := by
      unfold scale
      omega
    omega

theorem divNearest_mul {n d : Nat} (hd : 0 < d) : divNearest (n * d) d = n := by
  unfold divNearest
  dsimp only
  rw [Nat.mul_mod_left, Nat.mul_div_cancel _ hd, if_pos (by omega)]

/-- Exponent and fraction as one number are the significand, counted from the exponent of the number. -/
theorem magnitude_eq (x : Binary f) :
    (x.scale - f.leastScale).toNat * 2 ^ f.fractionBits + x.significand = x.magnitude := by
  unfold scale significand magnitude
  have hsub : ((x.exponent.val - 1 : Nat) + f.leastScale - f.leastScale).toNat = x.exponent.val - 1 := by omega
  rw [hsub]
  split
  · next h => simp [h]
  · next h =>
    obtain ⟨k, hk⟩ : ∃ k, x.exponent.val = k + 1 := ⟨x.exponent.val - 1, by omega⟩
    rw [hk, Nat.add_sub_cancel, Nat.succ_mul]
    omega

theorem ofMagnitude_magnitude (x : Binary f) : ofMagnitude f x.negative x.magnitude = x := by
  have hpos : 0 < 2 ^ f.fractionBits := Nat.two_pow_pos _
  have hx := x.fraction.isLt
  have he := x.exponent.isLt
  have hdiv : x.magnitude / 2 ^ f.fractionBits = x.exponent.val := by
    unfold magnitude
    rw [Nat.add_comm, Nat.add_mul_div_right _ _ hpos, Nat.div_eq_of_lt hx, Nat.zero_add]
  have hmod : x.magnitude % 2 ^ f.fractionBits = x.fraction.val := by
    unfold magnitude
    rw [Nat.add_comm, Nat.add_mul_mod_self_right, Nat.mod_eq_of_lt hx]
  unfold ofMagnitude
  obtain ⟨negative, exponent, fraction⟩ := x
  congr 1
  · exact Fin.ext (by simp only [hdiv, Nat.mod_eq_of_lt he])
  · exact Fin.ext hmod

theorem magnitude_lt_of_isFinite {x : Binary f} (hx : x.isFinite = true) :
    x.magnitude < f.topExponent * 2 ^ f.fractionBits := by
  have hfraction := x.fraction.isLt
  have hlt := x.exponent.isLt
  have hne : x.exponent.val ≠ f.topExponent := by simpa [isFinite] using hx
  have hexponent : x.exponent.val + 1 ≤ f.topExponent := by
    unfold Format.topExponent at *
    omega
  have hmul := Nat.mul_le_mul_right (2 ^ f.fractionBits) hexponent
  unfold magnitude
  rw [Nat.succ_mul] at hmul
  omega

theorem ofRatio_eq {x : Binary f} (hx : x.isFinite = true) {n d : Nat} (hd : 0 < d)
    (h : (n : ℚ) / d = x.absValue) : ofRatio f x.negative n d = x := by
  have hd' : (d : ℚ) ≠ 0 := by exact_mod_cast hd.ne'
  rw [div_eq_iff hd', absValue] at h
  unfold ofRatio
  by_cases hn : n = 0
  · have hs : x.significand = 0 := by
      rw [hn, Nat.cast_zero] at h
      have hpow : (2 : ℚ) ^ x.scale ≠ 0 := (zpow_pos (by decide) _).ne'
      simpa [hpow, hd'] using h.symm
    have hm : x.magnitude = 0 := by
      unfold significand at hs
      unfold magnitude
      have hpos := Nat.two_pow_pos f.fractionBits
      split at hs
      · next he => rw [he, hs, Nat.zero_mul]
      · omega
    rw [if_pos hn, zero, ← hm, ofMagnitude_magnitude]
  · have hs : x.significand ≠ 0 := by
      intro hs
      rw [hs, Nat.cast_zero, zero_mul, zero_mul] at h
      exact hn (by exact_mod_cast h)
    have hvalue : (n : ℚ) / d = x.absValue := by rw [div_eq_iff hd', absValue, h]
    have hscale : max (ratioLog2 n d - f.fractionBits) f.leastScale = x.scale := by
      rw [ratioLog2_eq_log (Nat.pos_iff_ne_zero.2 hn) hd, hvalue, max_log_absValue hs]
    have hquotient : n * 2 ^ (-x.scale).toNat = x.significand * (d * 2 ^ x.scale.toNat) := by
      have hcast : (n : ℚ) * 2 ^ (-x.scale).toNat = x.significand * (d * 2 ^ x.scale.toNat) := by
        rw [h, ← two_zpow_mul x.scale]
        ring
      exact_mod_cast hcast
    rw [if_neg hn]
    dsimp only
    rw [hscale, hquotient, divNearest_mul (Nat.mul_pos hd (Nat.two_pow_pos _)), magnitude_eq,
      if_neg (Nat.not_le.2 (magnitude_lt_of_isFinite hx)), ofMagnitude_magnitude]

/-! ## Bits -/

theorem magnitude_lt (x : Binary f) : x.magnitude < 2 ^ (f.exponentBits + f.fractionBits) := by
  have hfraction := x.fraction.isLt
  have hmul := Nat.mul_le_mul_right (2 ^ f.fractionBits) (Nat.succ_le_of_lt x.exponent.isLt)
  unfold magnitude
  rw [Nat.pow_add]
  rw [Nat.succ_mul] at hmul
  omega

theorem toBits_lt (x : Binary f) : x.toBits < 2 ^ (1 + f.exponentBits + f.fractionBits) := by
  have hx := x.magnitude_lt
  have hpow : 2 ^ (1 + f.exponentBits + f.fractionBits) = 2 * 2 ^ (f.exponentBits + f.fractionBits) := by
    rw [Nat.add_assoc, Nat.pow_add, Nat.pow_one]
  unfold toBits
  split <;> omega

/-- The sign bit does not reach the fields below it. -/
theorem ofMagnitude_add (negative : Bool) (m : Nat) :
    ofMagnitude f negative (2 ^ (f.exponentBits + f.fractionBits) + m) = ofMagnitude f negative m := by
  have hpos : 0 < 2 ^ f.fractionBits := Nat.two_pow_pos _
  unfold ofMagnitude
  simp only [Nat.pow_add, Nat.mul_comm (2 ^ f.exponentBits), Nat.mul_add_mod, Nat.mul_add_div hpos, Nat.add_mod_left]

theorem ofBits_toBits (x : Binary f) : ofBits f x.toBits = x := by
  have hx := x.magnitude_lt
  have hpos : 0 < 2 ^ (f.exponentBits + f.fractionBits) := Nat.two_pow_pos _
  unfold ofBits toBits
  split
  · next hnegative =>
    rw [Nat.add_div_left _ hpos, Nat.div_eq_of_lt hx, ofMagnitude_add]
    show ofMagnitude f true x.magnitude = x
    rw [← hnegative, ofMagnitude_magnitude]
  · next hnegative =>
    have hfalse : x.negative = false := Bool.eq_false_iff.2 hnegative
    rw [Nat.zero_add, Nat.div_eq_of_lt hx]
    show ofMagnitude f false x.magnitude = x
    rw [← hfalse, ofMagnitude_magnitude]

/-! ## Fields -/

theorem topExponent_lt (f : Format) : f.topExponent < 2 ^ f.exponentBits :=
  Nat.sub_lt (Nat.two_pow_pos _) (by decide)

section
variable (negative : Bool) {k r : Nat}

theorem fields_ofMagnitude (hk : k < 2 ^ f.exponentBits) (hr : r < 2 ^ f.fractionBits) :
    (ofMagnitude f negative (k * 2 ^ f.fractionBits + r)).exponent.val = k ∧
      (ofMagnitude f negative (k * 2 ^ f.fractionBits + r)).fraction.val = r := by
  have hpos := Nat.two_pow_pos f.fractionBits
  constructor
  · show (k * 2 ^ f.fractionBits + r) / 2 ^ f.fractionBits % 2 ^ f.exponentBits = k
    rw [Nat.add_comm, Nat.add_mul_div_right _ _ hpos, Nat.div_eq_of_lt hr, Nat.zero_add, Nat.mod_eq_of_lt hk]
  · show (k * 2 ^ f.fractionBits + r) % 2 ^ f.fractionBits = r
    rw [Nat.add_comm, Nat.add_mul_mod_self_right, Nat.mod_eq_of_lt hr]

/-- The value of an exponent field and a fraction field. -/
theorem absValue_ofMagnitude (hk : k < f.topExponent) (hr : r < 2 ^ f.fractionBits) :
    (ofMagnitude f negative (k * 2 ^ f.fractionBits + r)).isFinite = true ∧
      (ofMagnitude f negative (k * 2 ^ f.fractionBits + r)).absValue =
        (if k = 0 then r else 2 ^ f.fractionBits + r : Nat) * 2 ^ ((k - 1 : Nat) + f.leastScale) := by
  obtain ⟨hexponent, hfraction⟩ :=
    fields_ofMagnitude negative (Nat.lt_trans hk (topExponent_lt f)) hr
  refine ⟨bne_iff_ne.2 (hexponent.trans_ne hk.ne), ?_⟩
  rw [absValue, significand, scale, hexponent, hfraction]

end

/-- Each significand counts each power of two between the least and the greatest one. -/
theorem exists_absValue (negative : Bool) {m j : Nat} (hm : m < 2 ^ (f.fractionBits + 1)) (hj : j + 2 ≤ f.topExponent) :
    ∃ x : Binary f, x.isFinite = true ∧ x.negative = negative ∧ x.absValue = m * 2 ^ (j + f.leastScale) := by
  induction j generalizing m with
  | zero =>
    by_cases hs : m < 2 ^ f.fractionBits
    · obtain ⟨hfinite, hvalue⟩ := absValue_ofMagnitude (f := f) negative (k := 0) (by omega) hs
      exact ⟨_, hfinite, rfl, hvalue⟩
    · obtain ⟨r, rfl⟩ := Nat.exists_eq_add_of_le (Nat.not_lt.1 hs)
      rw [Nat.pow_succ] at hm
      obtain ⟨hfinite, hvalue⟩ :=
        absValue_ofMagnitude (f := f) negative (k := 1) (r := r) (by omega) (by omega)
      exact ⟨_, hfinite, rfl, hvalue⟩
  | succ j ih =>
    by_cases hs : m < 2 ^ f.fractionBits
    · -- the hidden bit is not reached yet: a smaller power of two and twice the significand
      obtain ⟨x, hx, hnegative, hvalue⟩ := ih (m := 2 * m) (by rw [Nat.pow_succ]; omega) (by omega)
      refine ⟨x, hx, hnegative, ?_⟩
      rw [hvalue]
      push_cast
      rw [add_right_comm, zpow_add_one₀ (by decide)]
      ring
    · obtain ⟨r, rfl⟩ := Nat.exists_eq_add_of_le (Nat.not_lt.1 hs)
      rw [Nat.pow_succ] at hm
      obtain ⟨hfinite, hvalue⟩ :=
        absValue_ofMagnitude (f := f) negative (k := j + 2) (r := r) (by omega) (by omega)
      exact ⟨_, hfinite, rfl, hvalue⟩

/-! ## Singles as doubles -/

theorem isNaN_of_isFinite {x : Binary f} (hx : x.isFinite = true) : x.isNaN = false := by
  have hne : x.exponent.val ≠ f.topExponent := by simpa [isFinite] using hx
  simp [isNaN, hne]

/-- The values of singles are among those of finite doubles. -/
theorem exists_double (x : Single) :
    ∃ y : Double, y.isFinite = true ∧ y.negative = x.negative ∧ y.absValue = x.absValue := by
  have hlt : x.exponent.val < 256 := x.exponent.isLt
  have hs : x.significand < 2 ^ 53 := Nat.lt_of_lt_of_le x.significand_lt (by decide)
  obtain ⟨y, hy, hnegative, hvalue⟩ :=
    exists_absValue (f := .double) x.negative hs (j := x.exponent.val - 1 + 925) (show _ ≤ 2047 by omega)
  refine ⟨y, hy, hnegative, ?_⟩
  have hscale : ((x.exponent.val - 1 + 925 : Nat) : ℤ) + Format.double.leastScale = x.scale := by
    show ((x.exponent.val - 1 + 925 : Nat) : ℤ) + -1074 = (x.exponent.val - 1 : Nat) + -149
    omega
  rw [hvalue, absValue, hscale]

theorem widen_of_isFinite {x : Single} (hx : x.isFinite = true) :
    x.widen = ofRatio .double x.negative (x.significand * 2 ^ x.scale.toNat) (2 ^ (-x.scale).toNat) := by
  simp only [widen, isNaN_of_isFinite hx, hx, Bool.false_eq_true, if_false, Bool.not_true]

theorem narrow_of_isFinite {x : Double} (hx : x.isFinite = true) :
    x.narrow = ofRatio .single x.negative (x.significand * 2 ^ x.scale.toNat) (2 ^ (-x.scale).toNat) := by
  simp only [narrow, isNaN_of_isFinite hx, hx, Bool.false_eq_true, if_false, Bool.not_true]

/-- The same number in two formats: with the same sign, and both infinite or both finite and of the same value. -/
structure SameNumber {f g : Format} (x : Binary f) (y : Binary g) : Prop where
  negative_eq : y.negative = x.negative
  isNaN_eq : x.isNaN = false ∧ y.isNaN = false
  isFinite_eq : y.isFinite = x.isFinite
  absValue_eq : x.isFinite = true → y.absValue = x.absValue

theorem widen_finite {x : Single} (hx : x.isFinite = true) :
    x.widen.isFinite = true ∧ x.widen.negative = x.negative ∧ x.widen.absValue = x.absValue := by
  obtain ⟨y, hy, hnegative, hvalue⟩ := exists_double x
  have hwiden : x.widen = y := by
    rw [widen_of_isFinite hx, ← hnegative]
    exact ofRatio_eq hy (Nat.two_pow_pos _) (by rw [absValue_eq_div, hvalue])
  rw [hwiden]
  exact ⟨hy, hnegative, hvalue⟩

theorem widen_infinite {x : Single} (hx : x.isFinite = false) (hNaN : x.isNaN = false) :
    x.widen = infinity .double x.negative := by
  simp [widen, hNaN, hx]

/-- A single is the same number as a double. -/
theorem sameNumber_widen {x : Single} (hNaN : x.isNaN = false) : SameNumber x x.widen := by
  cases hx : x.isFinite with
  | true =>
    obtain ⟨hfinite, hnegative, hvalue⟩ := widen_finite hx
    exact ⟨hnegative, ⟨hNaN, isNaN_of_isFinite hfinite⟩, by rw [hfinite, hx], fun _ => hvalue⟩
  | false =>
    rw [widen_infinite hx hNaN]
    refine ⟨rfl, ⟨hNaN, ?_⟩, ?_, fun h => ?_⟩
    · cases x.negative <;> decide
    · rw [hx]
      cases x.negative <;> decide
    · rw [hx] at h
      cases h

/-- A finite single keeps its value as a double, and that double is narrowed to it. -/
theorem narrow_widen {x : Single} (hx : x.isFinite = true) : x.widen.isFinite = true ∧ x.widen.narrow = x := by
  obtain ⟨hfinite, hnegative, hvalue⟩ := widen_finite hx
  refine ⟨hfinite, ?_⟩
  rw [narrow_of_isFinite hfinite, hnegative]
  exact ofRatio_eq hx (Nat.two_pow_pos _) (by rw [absValue_eq_div, hvalue])

/-! ## Integers -/

/-- The value of a finite number. -/
def value (x : Binary f) : ℚ :=
  if x.negative then -x.absValue else x.absValue

theorem absValue_nonneg (x : Binary f) : 0 ≤ x.absValue :=
  mul_nonneg (Nat.cast_nonneg _) (zpow_nonneg (by decide) _)

theorem abs_value (x : Binary f) : |x.value| = x.absValue := by
  rw [value]
  split
  · rw [abs_neg, abs_of_nonneg x.absValue_nonneg]
  · exact abs_of_nonneg x.absValue_nonneg

/-- A whole number has its value before the point. -/
theorem absValue_eq_natCast_iff {x : Binary f} {m : Nat} : x.absValue = m ↔
    (0 ≤ x.scale ∨ x.significand % 2 ^ (-x.scale).toNat = 0) ∧ x.truncated = m := by
  rw [← absValue_eq_div, truncated]
  by_cases hs : 0 ≤ x.scale
  · have hzero : (-x.scale).toNat = 0 := by omega
    rw [hzero, if_pos hs, Nat.pow_zero, Nat.cast_one, div_one, Nat.cast_inj]
    simp [hs]
  · have hzero : x.scale.toNat = 0 := by omega
    have hpos : 0 < 2 ^ (-x.scale).toNat := Nat.two_pow_pos _
    have hpow : ((2 ^ (-x.scale).toNat : Nat) : ℚ) ≠ 0 := by exact_mod_cast hpos.ne'
    rw [hzero, if_neg hs, Nat.pow_zero, Nat.mul_one, div_eq_iff hpow, ← Nat.cast_mul, Nat.cast_inj]
    constructor
    · intro h
      rw [h, Nat.mul_mod_left, Nat.mul_div_cancel _ hpos]
      exact ⟨.inr rfl, rfl⟩
    · rintro ⟨h | h, rfl⟩
      · exact absurd h hs
      · exact (Nat.div_mul_cancel (Nat.dvd_of_mod_eq_zero h)).symm

theorem isIntegral_iff {x : Binary f} : x.isIntegral = true ↔
    x.isFinite = true ∧ (0 ≤ x.scale ∨ x.significand % 2 ^ (-x.scale).toNat = 0) := by
  simp [isIntegral]

/-- The integer of a number is its value. -/
theorem toInt?_eq_some_iff {x : Binary f} {n : ℤ} : x.toInt? = some n ↔ x.isFinite = true ∧ x.value = n := by
  unfold toInt?
  constructor
  · intro h
    split at h
    · next hi =>
      obtain ⟨hx, hwhole⟩ := isIntegral_iff.1 hi
      have habs : x.absValue = x.truncated := absValue_eq_natCast_iff.2 ⟨hwhole, rfl⟩
      cases h
      refine ⟨hx, ?_⟩
      rw [value, signed, habs]
      split <;> push_cast <;> rfl
    · cases h
  · rintro ⟨hx, hv⟩
    have habs : x.absValue = n.natAbs ∧ signed x.negative n.natAbs = n := by
      have hnonneg := x.absValue_nonneg
      rw [value] at hv
      rw [signed, Nat.cast_natAbs]
      by_cases hneg : x.negative = true
      · rw [if_pos hneg] at hv ⊢
        have hn : n ≤ 0 := by
          have hle : (n : ℚ) ≤ 0 := by linarith
          exact_mod_cast hle
        rw [abs_of_nonpos hn]
        exact ⟨by push_cast; linarith, by omega⟩
      · rw [if_neg hneg] at hv ⊢
        have hn : 0 ≤ n := by
          have hle : (0 : ℚ) ≤ n := by linarith
          exact_mod_cast hle
        rw [abs_of_nonneg hn]
        exact ⟨hv, by omega⟩
    obtain ⟨hwhole, htruncated⟩ := absValue_eq_natCast_iff.1 habs.1
    rw [if_pos (isIntegral_iff.2 ⟨hx, hwhole⟩), htruncated, habs.2]

/-- The absolute value of a whole number is a significand, shifted. -/
theorem exists_shift {x : Binary f} {n : ℤ} (hv : x.value = n) :
    ∃ m e : Nat, n.natAbs = m * 2 ^ e ∧ m < 2 ^ (f.fractionBits + 1) := by
  have habs : x.absValue = n.natAbs := by rw [← abs_value, hv, Nat.cast_natAbs, Int.cast_abs]
  have hlt := x.significand_lt
  obtain ⟨-, ht⟩ := absValue_eq_natCast_iff.1 habs
  rw [← ht, truncated]
  split
  · exact ⟨x.significand, x.scale.toNat, rfl, hlt⟩
  · exact ⟨x.significand / 2 ^ (-x.scale).toNat, 0, (Nat.mul_one _).symm, Nat.lt_of_le_of_lt (Nat.div_le_self _ _) hlt⟩

/-- A significand, shifted no further than the exponents reach, is rounded to itself. -/
theorem value_ofInt {n : ℤ} {m j k : Nat} (hm : m < 2 ^ (f.fractionBits + 1)) (hn : n.natAbs = m * 2 ^ k)
    (hj : (j : ℤ) + f.leastScale = k) (htop : j + 2 ≤ f.topExponent) :
    (ofInt f n).isFinite = true ∧ (ofInt f n).value = n := by
  obtain ⟨x, hx, hnegative, habs⟩ := exists_absValue (decide (n < 0)) hm htop
  rw [hj, zpow_natCast] at habs
  have hratio : (n.natAbs : ℚ) / (1 : Nat) = x.absValue := by
    rw [hn, habs]
    push_cast
    rw [div_one]
  have heq : ofInt f n = x := by
    rw [ofInt, ← hnegative]
    exact ofRatio_eq hx (by decide) hratio
  rw [heq, value, hnegative, ← hratio, Nat.cast_one, div_one, Nat.cast_natAbs]
  refine ⟨hx, ?_⟩
  by_cases hneg : n < 0
  · rw [if_pos (decide_eq_true hneg), abs_of_neg hneg]
    push_cast
    rw [neg_neg]
  · rw [if_neg (by simpa using hneg), abs_of_nonneg (Int.not_lt.1 hneg)]

end TypedSql.Binary
