import TypedSql.Proofs.Number.Binary

/-!
# What ratios are rounded to

* `Binary.divNearest_lt_iff`, `Binary.le_divNearest`, `Binary.divNearest_le` : the nearest integer to a ratio;
* `Binary.Rounded f v e q` : rounded to format `f`, the value `v` is `q · 2 ^ e`, were there no greatest exponent;
* `Format.limit` : the values that are rounded to infinities begin half a unit above the greatest number;
* `Binary.RoundsTo v x` : `x` is finite below the limit, and as far below even multiples of a unit as `v` is;
* `Binary.roundsTo_ofRatio` : so is the number that a ratio is rounded to.
-/

namespace TypedSql

/-! ## Limits -/

/-- The power of two that the significands of the greatest numbers count. -/
def Format.greatestScale (f : Format) : ℤ :=
  f.topExponent - 2 + f.leastScale

/-- The least value that is rounded to an infinity. -/
def Format.limit (f : Format) : ℚ :=
  (2 ^ (f.fractionBits + 1) - 1 / 2) * 2 ^ f.greatestScale

namespace Binary
variable {f : Format}

/-! ## The nearest integer -/

section
variable {n d k : Nat}

theorem div_le_divNearest (n d : Nat) : n / d ≤ divNearest n d := by
  unfold divNearest
  dsimp only
  split_ifs <;> omega

theorem divNearest_le_succ (n d : Nat) : divNearest n d ≤ n / d + 1 := by
  unfold divNearest
  dsimp only
  split_ifs <;> omega

theorem le_divNearest (hd : 0 < d) (h : (k : ℚ) ≤ n / d) : k ≤ divNearest n d := by
  have hd' : (0 : ℚ) < d := by exact_mod_cast hd
  rw [le_div_iff₀ hd'] at h
  have hle : k * d ≤ n := by exact_mod_cast h
  exact Nat.le_trans ((Nat.le_div_iff_mul_le hd).2 hle) (div_le_divNearest n d)

theorem divNearest_le (hd : 0 < d) (h : (n : ℚ) / d ≤ k) : divNearest n d ≤ k := by
  have hd' : (0 : ℚ) < d := by exact_mod_cast hd
  rw [div_le_iff₀ hd'] at h
  have hle : n ≤ k * d := by exact_mod_cast h
  rcases Nat.lt_or_eq_of_le hle with hlt | rfl
  · exact Nat.le_trans (divNearest_le_succ n d) (Nat.div_lt_of_lt_mul (by rwa [Nat.mul_comm]))
  · rw [divNearest_mul hd]

/-- Between an odd and an even number a tie goes to the even one. -/
theorem divNearest_lt_iff (hd : 0 < d) (hk : Even k) : divNearest n d < k ↔ (n : ℚ) / d < k - 1 / 2 := by
  have hd' : (0 : ℚ) < d := by exact_mod_cast hd
  have hcross : (n : ℚ) / d < k - 1 / 2 ↔ 2 * n + d < 2 * k * d := by
    rw [div_lt_iff₀ hd', ← Nat.cast_lt (α := ℚ)]
    push_cast
    constructor <;> intro h <;> linarith
  obtain ⟨j, rfl⟩ := hk
  have hmod := Nat.mod_lt n hd
  have hn := Nat.div_add_mod n d
  have hlow := div_le_divNearest n d
  have hhigh := divNearest_le_succ n d
  rw [hcross]
  obtain hlt | heq | hgt : n / d + 1 < j + j ∨ n / d + 1 = j + j ∨ j + j ≤ n / d := by omega
  · have hmul := Nat.mul_le_mul_left d hlt
    exact iff_of_true (by omega) (by nlinarith)
  · -- only here it matters how far the ratio is from the two integers, the lower of which is odd
    have hodd : ¬ n / d % 2 = 0 := by omega
    unfold divNearest
    dsimp only
    rw [if_neg hodd, ← heq]
    split_ifs
    · exact iff_of_true (by omega) (by nlinarith)
    · exact iff_of_false (by omega) (by nlinarith)
    · exact iff_of_false (by omega) (by nlinarith)
  · have hmul := Nat.mul_le_mul_left d hgt
    have hle : d * (j + j) ≤ n := by omega
    exact iff_of_false (by omega) (by nlinarith)

end

/-! ## Values without a greatest exponent -/

/-- Rounded to format `f`, the value `v` is `q · 2 ^ e`, were there no greatest exponent: `e` is the exponent of `v`,
and `q` the nearest integer to what is left of it. -/
structure Rounded (f : Format) (v : ℚ) (e : ℤ) (q : Nat) : Prop where
  leastScale_le : f.leastScale ≤ e
  value_lt : v < 2 ^ (f.fractionBits + 1) * 2 ^ e
  le_value : e = f.leastScale ∨ 2 ^ f.fractionBits * 2 ^ e ≤ v
  exists_ratio : ∃ n d : Nat, 0 < d ∧ v = n / d * 2 ^ e ∧ q = divNearest n d

/-- The scale of a ratio that is rounded. -/
def ratioScale (f : Format) (n d : Nat) : ℤ :=
  max (ratioLog2 n d - f.fractionBits) f.leastScale

/-- The significand of a ratio that is rounded. -/
def ratioSignificand (f : Format) (n d : Nat) : Nat :=
  divNearest (n * 2 ^ (-ratioScale f n d).toNat) (d * 2 ^ (ratioScale f n d).toNat)

/-- The number that `± q · 2 ^ e` is, or an infinity where the exponent is too great. -/
def ofScaled (f : Format) (negative : Bool) (e : ℤ) (q : Nat) : Binary f :=
  let m := (e - f.leastScale).toNat * 2 ^ f.fractionBits + q
  if f.topExponent * 2 ^ f.fractionBits ≤ m then infinity f negative else ofMagnitude f negative m

theorem ofRatio_eq_ofScaled {n : Nat} (hn : n ≠ 0) (negative : Bool) (d : Nat) :
    ofRatio f negative n d = ofScaled f negative (ratioScale f n d) (ratioSignificand f n d) := by
  unfold ofRatio
  rw [if_neg hn]
  rfl

theorem ratio_eq_mul_zpow {n d : Nat} (hd : 0 < d) (e : ℤ) :
    (n : ℚ) / d = ((n * 2 ^ (-e).toNat : Nat) : ℚ) / (d * 2 ^ e.toNat : Nat) * 2 ^ e := by
  have hd' : (d : ℚ) ≠ 0 := by exact_mod_cast hd.ne'
  have hpow : (2 : ℚ) ^ e.toNat ≠ 0 := pow_ne_zero _ (by decide)
  push_cast
  rw [← two_zpow_mul e] at hpow ⊢
  have hneg := right_ne_zero_of_mul hpow
  have hzpow := left_ne_zero_of_mul hpow
  field_simp

theorem rounded_ratio {n d : Nat} (hn : n ≠ 0) (hd : 0 < d) :
    Rounded f ((n : ℚ) / d) (ratioScale f n d) (ratioSignificand f n d) := by
  have hn' : (0 : ℚ) < n := by exact_mod_cast Nat.pos_iff_ne_zero.2 hn
  have hd' : (0 : ℚ) < d := by exact_mod_cast hd
  have hv : (0 : ℚ) < (n : ℚ) / d := div_pos hn' hd'
  have hlog := ratioLog2_eq_log (Nat.pos_iff_ne_zero.2 hn) hd
  have hscale : ratioScale f n d = max (ratioLog2 n d - f.fractionBits) f.leastScale := rfl
  have hpow : ∀ k : Nat, (2 : ℚ) ^ k * 2 ^ ratioScale f n d = 2 ^ (k + ratioScale f n d) := by
    intro k
    rw [zpow_add₀ (by decide), zpow_natCast]
  refine ⟨by omega, ?_, ?_, _, _, Nat.mul_pos hd (Nat.two_pow_pos _), ratio_eq_mul_zpow hd _, rfl⟩
  · rw [hpow]
    refine (Int.lt_zpow_iff_log_lt (b := 2) (by decide) hv).2 ?_
    rw [← hlog]
    push_cast
    omega
  · rcases eq_or_ne (ratioScale f n d) f.leastScale with h | h
    · exact .inl h
    · refine .inr ?_
      rw [hpow]
      refine (Int.zpow_le_iff_le_log (b := 2) (by decide) hv).2 ?_
      rw [← hlog]
      omega

namespace Rounded
variable {v : ℚ} {e : ℤ} {q : Nat}

theorem le_of_le (h : Rounded f v e q) {k : Nat} (hk : (k : ℚ) * 2 ^ e ≤ v) : k ≤ q := by
  obtain ⟨n, d, hd, rfl, rfl⟩ := h.exists_ratio
  exact le_divNearest hd (le_of_mul_le_mul_right hk (zpow_pos (by decide) e))

theorem le_two_pow (h : Rounded f v e q) : q ≤ 2 ^ (f.fractionBits + 1) := by
  have hv := h.value_lt
  obtain ⟨n, d, hd, rfl, rfl⟩ := h.exists_ratio
  refine divNearest_le hd (le_of_lt ?_)
  push_cast
  exact lt_of_mul_lt_mul_right hv (zpow_pos (by decide) e).le

theorem two_pow_le (h : Rounded f v e q) (he : f.leastScale < e) : 2 ^ f.fractionBits ≤ q := by
  refine h.le_of_le ?_
  push_cast
  exact h.le_value.resolve_left he.ne'

/-- Below an even multiple of a power of two are the values that are nearer to the multiple before it. -/
theorem lt_iff (h : Rounded f v e q) {k : Nat} {s : ℤ} (hk : Even k) (hlow : 2 ^ f.fractionBits < k)
    (hhigh : k ≤ 2 ^ (f.fractionBits + 1)) (hs : f.leastScale ≤ s) :
    (q : ℚ) * 2 ^ e < k * 2 ^ s ↔ v < (k - 1 / 2) * 2 ^ s := by
  have hpos : ∀ s : ℤ, (0 : ℚ) < 2 ^ s := fun s => zpow_pos (by decide) s
  have hlow' : (2 : ℚ) ^ f.fractionBits + 1 ≤ k := by exact_mod_cast hlow
  have hhigh' : (k : ℚ) ≤ 2 ^ (f.fractionBits + 1) := by exact_mod_cast hhigh
  rcases lt_trichotomy e s with hlt | rfl | hgt
  · -- a smaller exponent: both are below the power of two that `k · 2 ^ s` is above
    have hq : (q : ℚ) ≤ 2 ^ (f.fractionBits + 1) := by exact_mod_cast h.le_two_pow
    have hstep : (2 : ℚ) ^ (f.fractionBits + 1) * 2 ^ e ≤ 2 ^ f.fractionBits * 2 ^ s := by
      rw [pow_succ, mul_assoc, ← zpow_one_add₀ (by decide)]
      exact mul_le_mul_of_nonneg_left (zpow_le_zpow_right₀ (by norm_num) (by omega)) (by positivity)
    have hqe := mul_le_mul_of_nonneg_right hq (hpos e).le
    have hks := mul_le_mul_of_nonneg_right hlow' (hpos s).le
    have hv := h.value_lt
    have hsPos := hpos s
    exact iff_of_true (by linarith) (by linarith)
  · rw [mul_lt_mul_iff_left₀ (hpos e)]
    obtain ⟨n, d, hd, rfl, rfl⟩ := h.exists_ratio
    rw [mul_lt_mul_iff_left₀ (hpos e), Nat.cast_lt, divNearest_lt_iff hd hk]
  · have hq : (2 : ℚ) ^ f.fractionBits ≤ q := by exact_mod_cast h.two_pow_le (by omega)
    have hv := h.le_value.resolve_left (by omega)
    have hstep : (2 : ℚ) ^ (f.fractionBits + 1) * 2 ^ s ≤ 2 ^ f.fractionBits * 2 ^ e := by
      rw [pow_succ, mul_assoc, ← zpow_one_add₀ (by decide)]
      exact mul_le_mul_of_nonneg_left (zpow_le_zpow_right₀ (by norm_num) (by omega)) (by positivity)
    have hqe := mul_le_mul_of_nonneg_right hq (hpos e).le
    have hks := mul_le_mul_of_nonneg_right hhigh' (hpos s).le
    have hsPos := hpos s
    exact iff_of_false (by linarith) (by linarith)

end Rounded

/-! ## Numbers of a format -/

theorem isFinite_infinity (f : Format) (negative : Bool) :
    (infinity f negative).isFinite = false ∧ (infinity f negative).isNaN = false := by
  obtain ⟨hexponent, hfraction⟩ :=
    fields_ofMagnitude negative (topExponent_lt f) (Nat.two_pow_pos f.fractionBits)
  have hzero : (infinity f negative).fraction.val = 0 := hfraction
  exact ⟨bne_eq_false_iff_eq.2 hexponent, by simp [isNaN, hzero]⟩

/-- Where the exponent is not too great, a rounded value is that of its number. -/
theorem absValue_ofScaled {negative : Bool} {v : ℚ} {e : ℤ} {q : Nat} (h : Rounded f v e q)
    (hm : (e - f.leastScale).toNat * 2 ^ f.fractionBits + q < f.topExponent * 2 ^ f.fractionBits) :
    (ofScaled f negative e q).isFinite = true ∧ (ofScaled f negative e q).absValue = q * 2 ^ e := by
  have hle := h.leastScale_le
  have hq := h.le_two_pow
  obtain ⟨j, rfl⟩ : ∃ j : Nat, e = j + f.leastScale := ⟨(e - f.leastScale).toNat, by omega⟩
  have hj : (j + f.leastScale - f.leastScale).toNat = j := by omega
  have hfields : ofScaled f negative (j + f.leastScale) q = ofMagnitude f negative (j * 2 ^ f.fractionBits + q) := by
    rw [ofScaled, if_neg (Nat.not_le.2 hm), hj]
  rw [hj] at hm
  rw [hfields]
  rw [Nat.pow_succ] at hq
  have hpos := Nat.two_pow_pos f.fractionBits
  obtain hlt | ⟨r, rfl, hr⟩ | rfl : q < 2 ^ f.fractionBits ∨
      (∃ r, q = 2 ^ f.fractionBits + r ∧ r < 2 ^ f.fractionBits) ∨ q = 2 * 2 ^ f.fractionBits := by
    rcases Nat.lt_or_ge q (2 ^ f.fractionBits) with hlt | hge
    · exact .inl hlt
    · rcases Nat.lt_or_ge q (2 * 2 ^ f.fractionBits) with hlt | hge'
      · exact .inr (.inl ⟨q - 2 ^ f.fractionBits, by omega, by omega⟩)
      · exact .inr (.inr (by omega))
  · -- no hidden bit: the exponent is the least one
    obtain rfl : j = 0 := by
      by_contra hne
      have htwo := h.two_pow_le (by omega)
      omega
    have hk : 0 < f.topExponent := Nat.pos_of_mul_pos_right (Nat.lt_of_le_of_lt (Nat.zero_le _) hm)
    exact absValue_ofMagnitude negative hk hlt
  · have hk : j + 1 < f.topExponent := by
      refine Nat.lt_of_mul_lt_mul_right (a := 2 ^ f.fractionBits) ?_
      rw [Nat.succ_mul]
      omega
    have hsum : j * 2 ^ f.fractionBits + (2 ^ f.fractionBits + r) = (j + 1) * 2 ^ f.fractionBits + r := by
      rw [Nat.succ_mul, Nat.add_assoc]
    rw [hsum]
    exact absValue_ofMagnitude negative hk hr
  · -- rounded up to the next power of two
    have hsum : j * 2 ^ f.fractionBits + 2 * 2 ^ f.fractionBits = (j + 2) * 2 ^ f.fractionBits + 0 := by
      rw [Nat.add_mul, Nat.add_zero]
    rw [hsum] at hm ⊢
    have hk : j + 2 < f.topExponent := Nat.lt_of_mul_lt_mul_right hm
    obtain ⟨hfinite, hvalue⟩ := absValue_ofMagnitude negative hk hpos
    refine ⟨hfinite, ?_⟩
    rw [hvalue, if_neg (by omega)]
    push_cast
    rw [add_zero, add_right_comm, zpow_add_one₀ (by decide)]
    ring

theorem magnitude_lt_iff {negative : Bool} {v : ℚ} {e : ℤ} {q : Nat} (h : Rounded f v e q) :
    (ofScaled f negative e q).isFinite = true ↔
      (e - f.leastScale).toNat * 2 ^ f.fractionBits + q < f.topExponent * 2 ^ f.fractionBits := by
  constructor
  · intro hx
    by_contra hm
    rw [ofScaled, if_pos (Nat.not_lt.1 hm), (isFinite_infinity f negative).1] at hx
    cases hx
  · exact fun hm => (absValue_ofScaled h hm).1

theorem isNaN_ofScaled {negative : Bool} {v : ℚ} {e : ℤ} {q : Nat} (h : Rounded f v e q) :
    (ofScaled f negative e q).isNaN = false := by
  by_cases hm : (e - f.leastScale).toNat * 2 ^ f.fractionBits + q < f.topExponent * 2 ^ f.fractionBits
  · exact isNaN_of_isFinite (absValue_ofScaled h hm).1
  · rw [ofScaled, if_pos (Nat.not_lt.1 hm)]
    exact (isFinite_infinity f negative).2

theorem isFinite_ofScaled_iff {negative : Bool} {v : ℚ} {e : ℤ} {q : Nat} (h : Rounded f v e q)
    (htop : 2 ≤ f.topExponent) : (ofScaled f negative e q).isFinite = true ↔ v < f.limit := by
  have hle := h.leastScale_le
  have hq := h.le_two_pow
  have hpos := Nat.two_pow_pos f.fractionBits
  have hgreatest : f.greatestScale = f.topExponent - 2 + f.leastScale := rfl
  have hlimit := h.lt_iff (k := 2 ^ (f.fractionBits + 1)) (s := f.greatestScale)
    (Nat.even_pow.2 ⟨even_two, Nat.succ_ne_zero _⟩) (by rw [Nat.pow_succ]; omega) (Nat.le_refl _) (by omega)
  rw [magnitude_lt_iff h, Format.limit]
  push_cast at hlimit
  rw [← hlimit]
  obtain ⟨j, rfl⟩ : ∃ j : Nat, e = j + f.leastScale := ⟨(e - f.leastScale).toNat, by omega⟩
  have hj : (j + f.leastScale - f.leastScale).toNat = j := by omega
  rw [hj]
  have hq' : (q : ℚ) ≤ 2 ^ (f.fractionBits + 1) := by exact_mod_cast hq
  rcases lt_trichotomy (j + 2) f.topExponent with hlt | heq | hgt
  · have hmul := Nat.mul_le_mul_right (2 ^ f.fractionBits) hlt
    have hm : j * 2 ^ f.fractionBits + q < f.topExponent * 2 ^ f.fractionBits := by
      rw [Nat.pow_succ] at hq
      rw [Nat.succ_mul, Nat.add_mul] at hmul
      omega
    refine iff_of_true hm (lt_of_le_of_lt (mul_le_mul_of_nonneg_right hq' (zpow_pos (by decide) _).le) ?_)
    exact mul_lt_mul_of_pos_left (zpow_lt_zpow_right₀ (by norm_num) (by omega)) (by positivity)
  · have hscale : f.greatestScale = j + f.leastScale := by omega
    have hcast : (q : ℚ) < 2 ^ (f.fractionBits + 1) ↔ q < 2 ^ (f.fractionBits + 1) := by
      rw [← Nat.cast_lt (α := ℚ)]
      push_cast
      exact Iff.rfl
    rw [hscale, mul_lt_mul_iff_left₀ (zpow_pos (by decide) _), hcast, ← heq, Nat.add_mul, Nat.pow_succ]
    omega
  · have htwo := h.two_pow_le (by omega)
    have htwo' : (2 : ℚ) ^ f.fractionBits ≤ q := by exact_mod_cast htwo
    have hmul := Nat.mul_le_mul_right (2 ^ f.fractionBits) hgt
    have hm : ¬ j * 2 ^ f.fractionBits + q < f.topExponent * 2 ^ f.fractionBits := by
      rw [Nat.succ_mul, Nat.add_mul] at hmul
      omega
    refine iff_of_false hm (not_lt.2 (le_trans ?_ (mul_le_mul_of_nonneg_right htwo' (zpow_pos (by decide) _).le)))
    rw [pow_succ, mul_assoc, ← zpow_one_add₀ (by decide)]
    exact mul_le_mul_of_nonneg_left (zpow_le_zpow_right₀ (by norm_num) (by omega)) (by positivity)

/-! ## Rounding to a format -/

/-- What `v` is rounded to is finite below the limit, and then as far below even multiples of a unit as `v` is. -/
structure RoundsTo (v : ℚ) (x : Binary f) : Prop where
  isNaN_eq : x.isNaN = false
  isFinite_iff : x.isFinite = true ↔ v < f.limit
  lt_iff : x.isFinite = true → ∀ {k : Nat} {s : ℤ}, Even k → 2 ^ f.fractionBits < k → k ≤ 2 ^ (f.fractionBits + 1) →
    f.leastScale ≤ s → (x.absValue < k * 2 ^ s ↔ v < (k - 1 / 2) * 2 ^ s)

/-- Zero is next to whatever is below half the smallest positive number. -/
theorem roundsTo_zero (htop : 2 ≤ f.topExponent) (negative : Bool) {v : ℚ} (hv : v < 1 / 2 * 2 ^ f.leastScale) :
    RoundsTo v (zero f negative) := by
  have hbelow : ∀ {k : Nat} {s : ℤ}, 1 ≤ k → f.leastScale ≤ s → v < (k - 1 / 2) * 2 ^ s := by
    intro k s hk hs
    have hk' : (1 : ℚ) ≤ k := by exact_mod_cast hk
    refine lt_of_lt_of_le hv (mul_le_mul (by linarith) (zpow_le_zpow_right₀ (by norm_num) hs) ?_ (by linarith))
    exact (zpow_pos (by decide) _).le
  have hgreatest : f.greatestScale = f.topExponent - 2 + f.leastScale := rfl
  have hlimit : v < f.limit := by
    have h := hbelow (k := 2 ^ (f.fractionBits + 1)) (s := f.greatestScale) Nat.one_le_two_pow (by omega)
    rwa [Nat.cast_pow, Nat.cast_ofNat] at h
  have hzero : zero f negative = ofMagnitude f negative (0 * 2 ^ f.fractionBits + 0) := by
    rw [Nat.zero_mul]
    rfl
  obtain ⟨hfinite, hvalue⟩ := absValue_ofMagnitude (f := f) negative (k := 0) (by omega)
    (Nat.two_pow_pos f.fractionBits)
  rw [hzero]
  refine ⟨isNaN_of_isFinite hfinite, iff_of_true hfinite hlimit, fun _ k s _ hk _ hs => ?_⟩
  have hk' : (0 : ℚ) < k := by exact_mod_cast Nat.lt_of_le_of_lt (Nat.zero_le _) hk
  rw [hvalue, if_pos rfl, Nat.cast_zero, zero_mul]
  exact iff_of_true (mul_pos hk' (zpow_pos (by decide) _)) (hbelow (Nat.lt_of_le_of_lt (Nat.zero_le _) hk) hs)

theorem roundsTo_ofRatio (htop : 2 ≤ f.topExponent) (negative : Bool) (n : Nat) {d : Nat} (hd : 0 < d) :
    RoundsTo ((n : ℚ) / d) (ofRatio f negative n d) := by
  by_cases hn : n = 0
  · rw [ofRatio, if_pos hn, hn, Nat.cast_zero, zero_div]
    exact roundsTo_zero htop negative (mul_pos (by norm_num) (zpow_pos (by decide) _))
  · have h := rounded_ratio (f := f) hn hd
    rw [ofRatio_eq_ofScaled hn]
    refine ⟨isNaN_ofScaled h, isFinite_ofScaled_iff h htop, fun hfinite k s hk hlow hhigh hs => ?_⟩
    rw [(absValue_ofScaled h ((magnitude_lt_iff h).1 hfinite)).2]
    exact h.lt_iff hk hlow hhigh hs

theorem roundsTo_infinity (negative : Bool) {v : ℚ} (hv : f.limit ≤ v) : RoundsTo v (infinity f negative) := by
  obtain ⟨hinfinite, hnumber⟩ := isFinite_infinity f negative
  refine ⟨hnumber, ?_, fun h => ?_⟩
  · rw [hinfinite]
    exact iff_of_false (by decide) (not_lt.2 hv)
  · rw [hinfinite] at h
    cases h

theorem roundsTo_ofInt (htop : 2 ≤ f.topExponent) (n : ℤ) : RoundsTo |(n : ℚ)| (ofInt f n) := by
  have h := roundsTo_ofRatio htop (decide (n < 0)) n.natAbs (d := 1) (by decide)
  rwa [Nat.cast_one, div_one, Nat.cast_natAbs, Int.cast_abs] at h

/-- A finite number is what its own value is rounded to. -/
theorem roundsTo_absValue (htop : 2 ≤ f.topExponent) {x : Binary f} (hx : x.isFinite = true) :
    RoundsTo x.absValue x := by
  have hratio := absValue_eq_div x
  have h := roundsTo_ofRatio htop x.negative (x.significand * 2 ^ x.scale.toNat) (Nat.two_pow_pos (-x.scale).toNat)
  rwa [hratio, ofRatio_eq hx (Nat.two_pow_pos _) hratio] at h

/-! ## Singles and doubles -/

/-- Half a unit of the greatest scale comes back as a power of two. -/
theorem limit_eq {f : Format} {k : Nat} (h : f.greatestScale = k + 1) :
    f.limit = 2 ^ (f.fractionBits + 2 + k) - 2 ^ k := by
  rw [Format.limit, h, zpow_add_one₀ (by decide), zpow_natCast]
  ring

theorem limit_double : Format.double.limit = 2 ^ 1024 - 2 ^ 970 :=
  limit_eq (f := .double) (k := 970) rfl

theorem limit_single : Format.single.limit = 2 ^ 128 - 2 ^ 103 :=
  limit_eq (f := .single) (k := 103) rfl

/-- The least value that becomes infinite in two steps, as a double that is narrowed to a single. What is nearer to the
limit of singles than to the double before it is rounded to that limit. -/
def narrowLimit : ℚ := 2 ^ 128 - 2 ^ 103 - 2 ^ 74

theorem narrow_infinite {x : Double} (hx : x.isFinite = false) (hNaN : x.isNaN = false) :
    x.narrow = infinity .single x.negative := by
  simp [narrow, hNaN, hx]

/-- The limit of singles, and the limit of what is rounded to a double below it, in the unit of the doubles there. -/
theorem limit_single_eq : Format.single.limit = ((2 ^ 53 - 2 ^ 28 : Nat) : ℚ) * 2 ^ (75 : ℤ) ∧
    (((2 ^ 53 - 2 ^ 28 : Nat) : ℚ) - 1 / 2) * 2 ^ (75 : ℤ) = narrowLimit := by
  rw [limit_single, narrowLimit]
  norm_num

theorem narrowLimit_le : narrowLimit ≤ Format.double.limit := by
  have hhigh : (2 : ℚ) ^ (970 + 1) ≤ 2 ^ 1024 := pow_le_pow_right₀ (by norm_num) (by norm_num)
  rw [pow_succ, mul_two] at hhigh
  calc narrowLimit
    _ ≤ 2 ^ 128 := by norm_num [narrowLimit]
    _ ≤ 2 ^ 970 := pow_le_pow_right₀ (by norm_num) (by norm_num)
    _ ≤ 2 ^ 1024 - 2 ^ 970 := le_sub_iff_add_le.2 hhigh
    _ = Format.double.limit := limit_double.symm

theorem isFinite_narrow_iff {v : ℚ} {x : Double} (h : RoundsTo v x) :
    x.narrow.isNaN = false ∧ (x.narrow.isFinite = true ↔ v < narrowLimit) := by
  cases hx : x.isFinite with
  | true =>
    have hsingle := roundsTo_ofRatio (f := .single) (by decide) x.negative (x.significand * 2 ^ x.scale.toNat)
      (Nat.two_pow_pos (-x.scale).toNat)
    rw [← narrow_of_isFinite hx, absValue_eq_div] at hsingle
    refine ⟨hsingle.isNaN_eq, ?_⟩
    rw [hsingle.isFinite_iff, limit_single_eq.1, ← limit_single_eq.2]
    exact h.lt_iff hx (by decide) (by decide) (by decide) (by decide)
  | false =>
    obtain ⟨hinfinite, hnumber⟩ := isFinite_infinity .single x.negative
    have hv : ¬ v < Format.double.limit := by
      rw [← h.isFinite_iff, hx]
      decide
    rw [narrow_infinite hx h.isNaN_eq, hinfinite]
    exact ⟨hnumber, iff_of_false (by decide) fun hlt => hv (lt_of_lt_of_le hlt narrowLimit_le)⟩

end Binary

end TypedSql
