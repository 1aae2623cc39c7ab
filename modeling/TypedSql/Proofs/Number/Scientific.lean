import TypedSql.Proofs.Number.Numeral
import TypedSql.Proofs.Number.Rounding

/-!
# Numbers with a point and an exponent

* `Scientific s q` : `s` writes the number `q`, with or without a sign, a point and an exponent;
* `readExponent?_eq` : what is read as an exponent is the integer that is written behind the letter;
* `Binary.roundsTo_ofDecimal` : a decimal is rounded as the ratio that it is;
* `exists_readDouble?` : what is read from a written number is what the number is rounded to.
-/

namespace TypedSql

/-! ## Exponents -/

/-- An exponent as it is written: nothing, or an integer behind a letter. -/
inductive ExponentText : List Char → ℤ → Prop where
  | absent : ExponentText [] 0
  | marked {c : Char} {s : List Char} {n : ℤ} (hc : c = 'e' ∨ c = 'E') (h : Numeral s n) : ExponentText (c :: s) n

theorem readExponent?_of_numeral {s : List Char} {n : ℤ} (h : Numeral s n) :
    (readNat? (splitSign s).2).map (Binary.signed (splitSign s).1) = some n := by
  cases h with
  | bare hne hds =>
    rw [splitSign_eq_self fun c hc => ne_sign_of_isDigit (hds c (List.mem_of_mem_head? hc)),
      readNat?_eq_some_iff.2 ⟨hne, hds, rfl⟩]
    rfl
  | plus hne hds | minus hne hds =>
    rw [splitSign, readNat?_eq_some_iff.2 ⟨hne, hds, rfl⟩]
    rfl

theorem readExponent?_eq {s : List Char} {e : ℤ} (h : ExponentText s e) : readExponent? s = some e := by
  cases h with
  | absent => rfl
  | marked hc h =>
    rw [readExponent?, if_pos hc]
    exact readExponent?_of_numeral h

/-- An exponent begins with neither a digit nor a point. -/
theorem ExponentText.head?_eq {s : List Char} {e : ℤ} (h : ExponentText s e) :
    ∀ c ∈ s.head?, c.isDigit = false ∧ c ≠ '.' := by
  cases h with
  | absent => exact fun c hc => nomatch hc
  | marked hc _ =>
    rintro _ ⟨⟩
    rcases hc with rfl | rfl <;> decide

/-! ## Written numbers -/

/-- A number without a sign as it is written: decimal digits, one or more, with or without a point before, between or
behind them, and an exponent. It is `n · 10 ^ e`. -/
inductive Unsigned : List Char → Nat → ℤ → Prop where
  | whole {ds exponent : List Char} {e : ℤ} (hne : ds ≠ []) (hds : ∀ c ∈ ds, c.isDigit = true)
      (he : ExponentText exponent e) : Unsigned (ds ++ exponent) (decimalValue ds) e
  | pointed {ds fraction exponent : List Char} {e : ℤ} (hne : ds ++ fraction ≠ [])
      (hds : ∀ c ∈ ds ++ fraction, c.isDigit = true) (he : ExponentText exponent e) :
      Unsigned (ds ++ '.' :: (fraction ++ exponent)) (decimalValue (ds ++ fraction)) (e - fraction.length)

/-- A number as it is written, after an optional sign. -/
inductive Scientific : List Char → ℚ → Prop where
  | bare {s : List Char} {n : Nat} {e : ℤ} (h : Unsigned s n e) : Scientific s (n * 10 ^ e)
  | plus {s : List Char} {n : Nat} {e : ℤ} (h : Unsigned s n e) : Scientific ('+' :: s) (n * 10 ^ e)
  | minus {s : List Char} {n : Nat} {e : ℤ} (h : Unsigned s n e) : Scientific ('-' :: s) (-(n * 10 ^ e))

theorem splitFraction_exponent {s : List Char} {e : ℤ} (h : ExponentText s e) : splitFraction s = ([], s) := by
  unfold splitFraction
  split
  · exact absurd rfl (h.head?_eq '.' rfl).2
  · rfl

theorem readMagnitude?_eq {s : List Char} {n : Nat} {e : ℤ} (h : Unsigned s n e) (negative : Bool) :
    readMagnitude? negative s = some (Binary.ofDecimal negative n e) := by
  unfold readMagnitude?
  cases h with
  | @whole ds exponent e hne hds he =>
    have hspan := spanDigits_append hds fun c hc => (he.head?_eq c hc).1
    simp only [hspan, splitFraction_exponent he, List.isEmpty_eq_false_iff.2 hne, Bool.false_and, Bool.false_eq_true,
      if_false, readExponent?_eq he, Option.map_some, List.append_nil, List.length_nil, Nat.cast_zero, sub_zero,
      digitsValue_eq_decimalValue]
  | @pointed ds fraction exponent e hne hds he =>
    obtain ⟨hw, hf⟩ := List.forall_mem_append.1 hds
    have hspan : spanDigits (ds ++ '.' :: (fraction ++ exponent)) = (ds, '.' :: (fraction ++ exponent)) :=
      spanDigits_append hw (by rintro _ ⟨⟩; decide)
    have hfraction : splitFraction ('.' :: (fraction ++ exponent)) = (fraction, exponent) :=
      spanDigits_append hf fun c hc => (he.head?_eq c hc).1
    have hempty : (ds.isEmpty && fraction.isEmpty) = false := by
      rw [← Bool.not_eq_true, Bool.and_eq_true, List.isEmpty_iff, List.isEmpty_iff]
      rintro ⟨rfl, rfl⟩
      exact hne rfl
    simp only [hspan, hfraction, hempty, Bool.false_eq_true, if_false, readExponent?_eq he, Option.map_some,
      digitsValue_eq_decimalValue]

/-- A written number begins with a digit or the point. -/
theorem Unsigned.exists_cons {s : List Char} {n : Nat} {e : ℤ} (h : Unsigned s n e) :
    ∃ c rest, s = c :: rest ∧ (c.isDigit = true ∨ c = '.') := by
  cases h with
  | whole hne hds _ =>
    obtain ⟨c, rest, rfl⟩ := List.exists_cons_of_ne_nil hne
    exact ⟨c, _, rfl, .inl (hds c List.mem_cons_self)⟩
  | @pointed ds _ _ _ _ hds _ =>
    cases ds with
    | nil => exact ⟨'.', _, rfl, .inr rfl⟩
    | cons c ds => exact ⟨c, _, rfl, .inl (hds c List.mem_cons_self)⟩

theorem toLower_of_isDigit {c : Char} (h : c.isDigit = true) : c.toLower = c := by
  rw [Char.isDigit, Bool.and_eq_true, decide_eq_true_eq, decide_eq_true_eq] at h
  refine dif_neg ?_
  rintro ⟨hletter, -⟩
  exact absurd (UInt32.le_trans hletter h.2) (by decide)

/-- A written number is none of the names. -/
theorem Unsigned.lower_ne {s : List Char} {n : Nat} {e : ℤ} (h : Unsigned s n e) (name : String) {c : Char}
    {rest : List Char} (hname : name.toList = c :: rest) (hc : c.isDigit = false ∧ c ≠ '.') :
    String.ofList (s.map Char.toLower) ≠ name := by
  obtain ⟨d, tail, rfl, hd⟩ := h.exists_cons
  intro heq
  have hlist := congrArg String.toList heq
  rw [String.toList_ofList, hname, List.map_cons] at hlist
  have hhead := (List.cons.inj hlist).1
  rcases hd with hd | rfl
  · rw [toLower_of_isDigit hd] at hhead
    rw [← hhead, hd] at hc
    exact absurd hc.1 (by decide)
  · exact hc.2 hhead.symm

theorem Unsigned.splitSign_eq {s : List Char} {n : Nat} {e : ℤ} (h : Unsigned s n e) : splitSign s = (false, s) := by
  obtain ⟨c, rest, rfl, hc⟩ := h.exists_cons
  refine splitSign_eq_self ?_
  rintro _ ⟨⟩
  rcases hc with hc | rfl
  · exact ne_sign_of_isDigit hc
  · decide

theorem readDouble?_eq {t s : List Char} {n : Nat} {e : ℤ} {negative : Bool} (h : Unsigned s n e)
    (hsign : splitSign t = (negative, s)) : readDouble? t = some (Binary.ofDecimal negative n e) := by
  have hinf := h.lower_ne "inf" rfl (by decide)
  have hinfinity := h.lower_ne "infinity" rfl (by decide)
  have hnan := h.lower_ne "nan" rfl (by decide)
  unfold readDouble?
  rw [hsign]
  dsimp only
  rw [if_neg (not_or.2 ⟨hinf, hinfinity⟩), if_neg hnan, readMagnitude?_eq h]

theorem ExponentText.not_blank {s : List Char} {e : ℤ} (h : ExponentText s e) : ∀ c ∈ s, Text.isBlank c = false := by
  cases h with
  | absent => exact fun c hc => absurd hc List.not_mem_nil
  | marked hc h => exact List.forall_mem_cons.2 ⟨by rcases hc with rfl | rfl <;> rfl, h.not_blank⟩

theorem Unsigned.not_blank {s : List Char} {n : Nat} {e : ℤ} (h : Unsigned s n e) :
    ∀ c ∈ s, Text.isBlank c = false := by
  cases h with
  | whole _ hds he =>
    exact List.forall_mem_append.2 ⟨fun c hc => isBlank_of_isDigit (hds c hc), he.not_blank⟩
  | pointed _ hds he =>
    obtain ⟨hw, hf⟩ := List.forall_mem_append.1 hds
    refine List.forall_mem_append.2 ⟨fun c hc => isBlank_of_isDigit (hw c hc), List.forall_mem_cons.2 ⟨rfl, ?_⟩⟩
    exact List.forall_mem_append.2 ⟨fun c hc => isBlank_of_isDigit (hf c hc), he.not_blank⟩

theorem Scientific.not_blank {s : List Char} {q : ℚ} (h : Scientific s q) : ∀ c ∈ s, Text.isBlank c = false := by
  cases h with
  | bare h => exact h.not_blank
  | plus h | minus h => exact List.forall_mem_cons.2 ⟨rfl, h.not_blank⟩

/-! ## Rounding -/

namespace Binary

theorem length_toDigits_bounds {n : Nat} (hn : n ≠ 0) :
    (10 : ℚ) ^ (((Nat.toDigits 10 n).length : ℤ) - 1) ≤ n ∧ (n : ℚ) < 10 ^ ((Nat.toDigits 10 n).length : ℤ) := by
  have hlength := @Nat.length_toDigits_pos 10 n
  constructor
  · obtain ⟨k, hk⟩ : ∃ k, (Nat.toDigits 10 n).length = k + 1 := ⟨_, (Nat.sub_add_cancel hlength).symm⟩
    have hle : 10 ^ k ≤ n := by
      rcases Nat.eq_zero_or_pos k with rfl | hpos
      · exact Nat.pos_of_ne_zero hn
      · by_contra hlt
        have hshort := (Nat.length_toDigits_le_iff (by decide) hpos).2 (Nat.not_le.1 hlt)
        omega
    rw [hk, Nat.cast_add_one, add_sub_cancel_right, zpow_natCast]
    exact_mod_cast hle
  · rw [zpow_natCast]
    exact_mod_cast (Nat.length_toDigits_le_iff (by decide) hlength).1 (Nat.le_refl _)

theorem two_pow_le_ten_pow : (2 : ℚ) ^ 1075 ≤ 10 ^ (400 : ℤ) :=
  calc (2 : ℚ) ^ 1075
    _ ≤ 2 ^ (3 * 400) := pow_le_pow_right₀ (by norm_num) (by norm_num)
    _ = (2 ^ 3) ^ 400 := pow_mul _ _ _
    _ ≤ 10 ^ 400 := pow_le_pow_left₀ (by norm_num) (by norm_num) _
    _ = 10 ^ (400 : ℤ) := (zpow_natCast _ _).symm

/-- A decimal is rounded as the ratio that it is. -/
theorem roundsTo_ofDecimal (negative : Bool) (n : Nat) (e : ℤ) :
    RoundsTo ((n : ℚ) * 10 ^ e) (ofDecimal negative n e) := by
  have hten : ∀ k : ℤ, (0 : ℚ) < 10 ^ k := fun k => zpow_pos (by norm_num) k
  unfold ofDecimal
  by_cases hn : n = 0
  · rw [if_pos hn, hn, Nat.cast_zero, zero_mul]
    exact roundsTo_zero (by decide) negative (mul_pos (by norm_num) (zpow_pos (by decide) _))
  obtain ⟨hlow, hhigh⟩ := length_toDigits_bounds hn
  rw [if_neg hn]
  dsimp only
  generalize (Nat.toDigits 10 n).length = digits at hlow hhigh ⊢
  split_ifs with hlarge hsmall
  · -- beyond `10 ^ 400` there are no finite numbers
    refine roundsTo_infinity negative ?_
    calc Format.double.limit
      _ ≤ 2 ^ 1024 := by
        rw [limit_double]
        exact sub_le_self _ (by positivity)
      _ ≤ 2 ^ 1075 := pow_le_pow_right₀ (by norm_num) (by norm_num)
      _ ≤ 10 ^ (400 : ℤ) := two_pow_le_ten_pow
      _ ≤ 10 ^ ((digits : ℤ) - 1 + e) := zpow_le_zpow_right₀ (by norm_num) (by omega)
      _ = 10 ^ ((digits : ℤ) - 1) * 10 ^ e := zpow_add₀ (by norm_num) _ _
      _ ≤ n * 10 ^ e := mul_le_mul_of_nonneg_right hlow (hten e).le
  · -- below `10 ^ -400` all are nearer to zero than to any other number
    refine roundsTo_zero (by decide) negative ?_
    calc (n : ℚ) * 10 ^ e
      _ < 10 ^ (digits : ℤ) * 10 ^ e := mul_lt_mul_of_pos_right hhigh (hten e)
      _ = 10 ^ (digits + e) := (zpow_add₀ (by norm_num) _ _).symm
      _ ≤ 10 ^ (-400 : ℤ) := zpow_le_zpow_right₀ (by norm_num) (by omega)
      _ ≤ ((2 : ℚ) ^ 1075)⁻¹ := by
        rw [zpow_neg]
        exact inv_anti₀ (by positivity) two_pow_le_ten_pow
      _ = 1 / 2 * 2 ^ Format.double.leastScale := by
        show _ = 1 / 2 * (2 : ℚ) ^ (-1074 : ℤ)
        rw [zpow_neg, ← zpow_natCast, one_div, ← mul_inv, ← zpow_one_add₀ (by decide)]
        rfl
  · have hratio : (n : ℚ) * 10 ^ e = ((n * 10 ^ e.toNat : Nat) : ℚ) / (10 ^ (-e).toNat : Nat) := by
      have hpow := zpow_mul_toNat (b := 10) (by decide) e
      push_cast
      rw [eq_div_iff (pow_ne_zero _ (by decide)), mul_assoc, hpow]
    rw [hratio]
    exact roundsTo_ofRatio (by decide) negative _ (Nat.pow_pos (by decide))

end Binary

/-- What is read from a written number is what the number is rounded to. -/
theorem exists_readDouble? {s : List Char} {q : ℚ} (h : Scientific s q) :
    ∃ x, readDouble? s = some x ∧ Binary.RoundsTo |q| x := by
  have hnonneg : ∀ (n : Nat) (e : ℤ), (0 : ℚ) ≤ n * 10 ^ e := fun n e =>
    mul_nonneg (Nat.cast_nonneg n) (zpow_nonneg (by decide) e)
  cases h with
  | bare h =>
    rw [abs_of_nonneg (hnonneg _ _)]
    exact ⟨_, readDouble?_eq h h.splitSign_eq, Binary.roundsTo_ofDecimal false _ _⟩
  | plus h =>
    rw [abs_of_nonneg (hnonneg _ _)]
    exact ⟨_, readDouble?_eq h rfl, Binary.roundsTo_ofDecimal false _ _⟩
  | minus h =>
    rw [abs_neg, abs_of_nonneg (hnonneg _ _)]
    exact ⟨_, readDouble?_eq h rfl, Binary.roundsTo_ofDecimal true _ _⟩

end TypedSql
