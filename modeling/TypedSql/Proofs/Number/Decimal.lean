import TypedSql.Number.Decimal.Reading
import TypedSql.Proofs.Number.Digits
import TypedSql.Proofs.Text.Blank

/-!
# Decimals read back from their text

* `Decimal.exists_pointedText` : the text of a decimal is digits, or digits with a point before the last `scale`;
* `Decimal.fit?_eq` : fraction digits that fit are all taken;
* `Decimal.rescale_eq` : a decimal that has a form with the wanted scale is brought to that form;
* `Decimal.pointedText_eq` : digits without superfluous zeros in front are the text of their decimal;
* `Decimal.read?_text` : a decimal is read back from its text, a zero without its sign.
-/

namespace TypedSql.Decimal

open Text (trimChars)

/-! ## Scales -/

theorem pad_eq {m scale n : Nat} (h : m * 10 ^ n < 2 ^ 96) : pad m scale n = (m * 10 ^ n, scale + n) := by
  induction n generalizing m scale with
  | zero => rw [pad, Nat.pow_zero, Nat.mul_one, Nat.add_zero]
  | succ n ih =>
    have hten : 10 * m * 10 ^ n = m * 10 ^ (n + 1) := by
      rw [Nat.pow_succ, Nat.mul_comm 10 m, Nat.mul_assoc, Nat.mul_comm 10]
    have hle : 10 * m ≤ 10 * m * 10 ^ n := Nat.le_mul_of_pos_right _ (Nat.pow_pos (by decide))
    rw [pad, if_pos (by omega), ih (hten ▸ h), hten]
    congr 1
    omega

/-- No digit other than zero is dropped, and none is missing, where the wanted scale holds the decimal. -/
theorem rescale_eq {a k m s : Nat} (hm : m ≠ 0) (hfit : m < 2 ^ 96) (h : a * 10 ^ s = m * 10 ^ k) :
    rescale a k s = (m, s) := by
  have hpos : ∀ n, 0 < 10 ^ n := fun n => Nat.pow_pos (by decide)
  unfold rescale
  by_cases hks : k ≤ s
  · have hvalue : a * 10 ^ (s - k) = m := by
      apply Nat.eq_of_mul_eq_mul_right (hpos k)
      rw [Nat.mul_assoc, ← Nat.pow_add, Nat.sub_add_cancel hks, h]
    have ha : a ≠ 0 := by
      rintro rfl
      rw [Nat.zero_mul] at hvalue
      exact hm hvalue.symm
    rw [if_pos hks, if_neg ha, pad_eq (hvalue ▸ hfit), hvalue, Nat.add_sub_cancel' hks]
  · obtain ⟨j, rfl⟩ : ∃ j, k = s + (j + 1) := ⟨k - s - 1, by omega⟩
    have hvalue : a = m * 10 * 10 ^ j := by
      apply Nat.eq_of_mul_eq_mul_right (hpos s)
      rw [h, Nat.pow_add, Nat.pow_succ, Nat.mul_comm (10 ^ s), Nat.mul_comm (10 ^ j), ← Nat.mul_assoc, ← Nat.mul_assoc]
    have hquotient : a / 10 ^ (j + 1) = m := by
      rw [hvalue, Nat.mul_assoc, ← Nat.pow_succ', Nat.mul_div_cancel _ (hpos (j + 1))]
    have hdigit : a / 10 ^ j % 10 = 0 := by
      rw [hvalue, Nat.mul_div_cancel _ (hpos j), Nat.mul_mod_left]
    rw [if_neg hks]
    dsimp only
    rw [Nat.add_sub_cancel_left, Nat.add_sub_cancel, hquotient, hdigit]
    rfl

/-! ## Digits and the point -/

theorem isDigit_of_mem_pointed {mantissa k : Nat} {c : Char}
    (hc : c ∈ List.replicate k '0' ++ Nat.toDigits 10 mantissa) : c.isDigit = true := by
  rcases List.mem_append.1 hc with hc | hc
  · rw [(List.mem_replicate.1 hc).2]
    rfl
  · exact Nat.isDigit_of_mem_toDigits (by decide : 0 < 10) (by decide) hc

/-- The text of a decimal as the digits before and after the point. -/
theorem exists_pointedText (mantissa scale : Nat) :
    ∃ whole fraction : List Char, whole ≠ [] ∧ fraction.length = scale ∧ (∀ c ∈ whole ++ fraction, c.isDigit = true) ∧
      digitsValue (whole ++ fraction) = mantissa ∧
      pointedText mantissa scale = whole ++ if fraction = [] then [] else '.' :: fraction := by
  let padded := List.replicate (scale + 1 - (Nat.toDigits 10 mantissa).length) '0' ++ Nat.toDigits 10 mantissa
  have hpadded : scale + 1 ≤ padded.length := by
    simp only [padded, List.length_append, List.length_replicate]
    omega
  have hfraction : (padded.drop (padded.length - scale)).length = scale := by
    rw [List.length_drop]
    omega
  refine ⟨padded.take (padded.length - scale), padded.drop (padded.length - scale), ?_, hfraction, ?_, ?_, ?_⟩
  · intro h
    have hlength := congrArg List.length h
    rw [List.length_take, List.length_nil] at hlength
    omega
  · rw [List.take_append_drop]
    intro c hc
    exact isDigit_of_mem_pointed hc
  · rw [List.take_append_drop, digitsValue_replicate_append, digitsValue_toDigits]
  · have hempty : padded.drop (padded.length - scale) = [] ↔ scale = 0 := by
      rw [← List.length_eq_zero_iff, hfraction]
    simp only [hempty]
    rfl

theorem ne_point_of_isDigit {c : Char} (hc : c.isDigit = true) : c ≠ '.' := by
  rintro rfl
  revert hc
  decide

theorem digitRun?_digits {ds : List Char} (hds : ∀ c ∈ ds, c.isDigit = true) (seen : Bool) :
    digitRun? seen ds = some (ds, none) := by
  induction ds generalizing seen with
  | nil => rfl
  | cons c ds ih =>
    obtain ⟨hc, hds⟩ := List.forall_mem_cons.1 hds
    rw [digitRun?, if_neg (ne_point_of_isDigit hc), if_pos hc, ih hds]
    rfl

theorem digitRun?_point {ds : List Char} (hds : ∀ c ∈ ds, c.isDigit = true) (rest : List Char) (seen : Bool) :
    digitRun? seen (ds ++ '.' :: rest) = some (ds, some rest) := by
  induction ds generalizing seen with
  | nil => rfl
  | cons c ds ih =>
    obtain ⟨hc, hds⟩ := List.forall_mem_cons.1 hds
    rw [List.cons_append, digitRun?, if_neg (ne_point_of_isDigit hc), if_pos hc, ih hds]
    rfl

theorem splitDigits?_pointed {whole fraction : List Char} (hwhole : whole ≠ [])
    (hdigits : ∀ c ∈ whole ++ fraction, c.isDigit = true) :
    splitDigits? (whole ++ if fraction = [] then [] else '.' :: fraction) = some (whole, fraction) := by
  obtain ⟨hw, hf⟩ := List.forall_mem_append.1 hdigits
  have hempty : whole.isEmpty = false := by simpa using hwhole
  unfold splitDigits?
  by_cases hfraction : fraction = []
  · rw [if_pos hfraction, List.append_nil, digitRun?_digits hw, hfraction]
    simp only [hempty, Bool.false_eq_true, if_false]
  · rw [if_neg hfraction, digitRun?_point hw]
    simp only [digitRun?_digits hf, hempty, Bool.false_and, Bool.false_eq_true, if_false]

/-! ## Digits without superfluous zeros -/

theorem digitValue_eq (c : Char) : digitValue c = c.val.toNat - 48 := rfl

theorem digitValue_lt {c : Char} (h : c.isDigit = true) : digitValue c < 10 := by
  have hbounds := digit_bounds h
  rw [digitValue_eq]
  omega

theorem digitValue_inj {c d : Char} (hc : c.isDigit = true) (hd : d.isDigit = true) (h : digitValue c = digitValue d) :
    c = d := by
  have hcbounds := digit_bounds hc
  have hdbounds := digit_bounds hd
  rw [digitValue_eq, digitValue_eq] at h
  exact Char.ext (UInt32.toNat_inj.1 (by omega))

theorem digitsValue_cons (c : Char) (ds : List Char) :
    digitsValue (c :: ds) = digitValue c * 10 ^ ds.length + digitsValue ds := by
  have h := digitsValue_append [c] ds
  have hc : digitsValue [c] = digitValue c := by
    unfold digitsValue digitValue
    rw [Nat.ofDigitChars_cons, Nat.ofDigitChars_nil, Nat.mul_zero, Nat.zero_add]
  rwa [List.singleton_append, hc] at h

theorem digitsValue_lt {ds : List Char} (hds : ∀ c ∈ ds, c.isDigit = true) : digitsValue ds < 10 ^ ds.length := by
  induction ds with
  | nil => decide
  | cons c ds ih =>
    obtain ⟨hc, hds⟩ := List.forall_mem_cons.1 hds
    have hlt := ih hds
    have hmul := Nat.mul_le_mul_right (10 ^ ds.length) (digitValue_lt hc)
    rw [Nat.succ_mul] at hmul
    rw [digitsValue_cons, List.length_cons, Nat.pow_succ]
    omega

/-- As many digits write a number in one way. -/
theorem eq_of_digitsValue_eq {ds es : List Char} (hds : ∀ c ∈ ds, c.isDigit = true) (hes : ∀ c ∈ es, c.isDigit = true)
    (hlength : ds.length = es.length) (h : digitsValue ds = digitsValue es) : ds = es := by
  induction ds generalizing es with
  | nil => exact (List.eq_nil_of_length_eq_zero hlength.symm).symm
  | cons c ds ih =>
    obtain ⟨d, es, rfl⟩ := List.exists_cons_of_length_eq_add_one hlength.symm
    obtain ⟨hc, hds⟩ := List.forall_mem_cons.1 hds
    obtain ⟨hd, hes⟩ := List.forall_mem_cons.1 hes
    have hlength := Nat.succ.inj hlength
    have hlt := digitsValue_lt hds
    have hlt' := digitsValue_lt hes
    rw [digitsValue_cons, digitsValue_cons, ← hlength] at h
    rw [← hlength] at hlt'
    have hhead : digitValue c = digitValue d := by
      rcases Nat.lt_trichotomy (digitValue c) (digitValue d) with hlow | heq | hhigh
      · have hmul := Nat.mul_le_mul_right (10 ^ ds.length) hlow
        rw [Nat.succ_mul] at hmul
        omega
      · exact heq
      · have hmul := Nat.mul_le_mul_right (10 ^ ds.length) hhigh
        rw [Nat.succ_mul] at hmul
        omega
    rw [hhead] at h
    rw [digitValue_inj hc hd hhead, ih hds hes hlength (by omega)]

theorem length_toDigits_le {ds : List Char} (hne : ds ≠ []) (hds : ∀ c ∈ ds, c.isDigit = true) :
    (Nat.toDigits 10 (digitsValue ds)).length ≤ ds.length :=
  (Nat.length_toDigits_le_iff (by decide) (List.length_pos_iff.2 hne)).2 (digitsValue_lt hds)

theorem le_length_toDigits {ds : List Char} (hds : ∀ c ∈ ds, c.isDigit = true) (hhead : ds.head? ≠ some '0') :
    ds.length ≤ (Nat.toDigits 10 (digitsValue ds)).length := by
  cases ds with
  | nil => exact Nat.zero_le _
  | cons c ds =>
    have hpos := @Nat.length_toDigits_pos 10 (digitsValue (c :: ds))
    have hzero : digitValue c ≠ 0 := fun h =>
      hhead (congrArg some (digitValue_inj (hds c List.mem_cons_self) (by decide : '0'.isDigit = true) h))
    rw [List.length_cons]
    refine Nat.lt_of_not_le fun hshort => ?_
    rw [Nat.length_toDigits_le_iff (by decide) (by omega)] at hshort
    have hle := Nat.le_mul_of_pos_left (10 ^ ds.length) (Nat.pos_of_ne_zero hzero)
    rw [digitsValue_cons] at hshort
    omega

/-- Digits with a point before the last `fraction.length` of them are the text of a decimal, unless there is a zero too
many in front. -/
theorem pointedText_eq {whole fraction : List Char} (hwhole : whole ≠ [])
    (hhead : whole.head? = some '0' → whole = ['0']) (hdigits : ∀ c ∈ whole ++ fraction, c.isDigit = true) :
    pointedText (digitsValue (whole ++ fraction)) fraction.length =
      whole ++ if fraction = [] then [] else '.' :: fraction := by
  have hpos := List.length_pos_iff.2 hwhole
  have hlength : (whole ++ fraction).length = whole.length + fraction.length := List.length_append
  have hne : whole ++ fraction ≠ [] := List.append_ne_nil_of_left_ne_nil hwhole _
  have hle := length_toDigits_le hne hdigits
  -- the zeros that are put in front are those of a number below one, and no others
  have hpadded :
      List.replicate (fraction.length + 1 - (Nat.toDigits 10 (digitsValue (whole ++ fraction))).length) '0' ++
        Nat.toDigits 10 (digitsValue (whole ++ fraction)) = whole ++ fraction := by
    refine eq_of_digitsValue_eq (fun c hc => isDigit_of_mem_pointed hc) hdigits ?_ ?_
    · rw [List.length_append, List.length_replicate]
      by_cases hzero : whole.head? = some '0'
      · have hone := congrArg List.length (hhead hzero)
        rw [List.length_singleton] at hone
        omega
      · have hfirst : (whole ++ fraction).head? ≠ some '0' := by
          obtain ⟨c, whole, rfl⟩ := List.exists_cons_of_ne_nil hwhole
          exact hzero
        have hge := le_length_toDigits hdigits hfirst
        omega
    · rw [digitsValue_replicate_append, digitsValue_toDigits]
  unfold pointedText
  dsimp only
  rw [hpadded, hlength, Nat.add_sub_cancel, List.take_left, List.drop_left]
  simp only [List.length_eq_zero_iff]

/-! ## Fraction digits -/

/-- Fraction digits are all taken where the number that they end fits. -/
theorem fit?_eq {mantissa scale : Nat} {ds : List Char} (hscale : scale + ds.length ≤ 28)
    (hfit : mantissa * 10 ^ ds.length + digitsValue ds < 2 ^ 96) :
    fit? mantissa scale ds = some (mantissa * 10 ^ ds.length + digitsValue ds, scale + ds.length) := by
  induction ds generalizing mantissa scale with
  | nil =>
    show some (mantissa, scale) = some (mantissa * 1 + 0, scale + 0)
    rw [Nat.mul_one, Nat.add_zero, Nat.add_zero]
  | cons c ds ih =>
    have hvalue : mantissa * 10 ^ (c :: ds).length + digitsValue (c :: ds) =
        (10 * mantissa + digitValue c) * 10 ^ ds.length + digitsValue ds := by
      rw [digitsValue_cons, List.length_cons, Nat.pow_succ, Nat.add_mul, Nat.mul_comm 10 mantissa, Nat.mul_assoc,
        Nat.mul_comm 10, Nat.add_assoc]
    rw [hvalue] at hfit ⊢
    rw [List.length_cons] at hscale ⊢
    have hpos : 10 * mantissa + digitValue c ≤ (10 * mantissa + digitValue c) * 10 ^ ds.length :=
      Nat.le_mul_of_pos_right _ (Nat.pow_pos (by decide))
    rw [fit?, if_pos (by omega), ih (by omega) hfit, Nat.add_right_comm, Nat.add_assoc]

/-! ## Whole texts -/

theorem splitSign_append {body : List Char} (h : ∀ c ∈ body.head?, c.isDigit = true) (negative : Bool) :
    splitSign ((if negative then ['-'] else []) ++ body) = (negative, body) := by
  cases negative with
  | true => rfl
  | false =>
    exact splitSign_eq_self fun c hc => ne_sign_of_isDigit (h c hc)

/-- A text of digits, with a point before the last `fraction.length` of them, is read with all its digits. -/
theorem readPlain?_pointed {whole fraction : List Char} (hwhole : whole ≠ [])
    (hdigits : ∀ c ∈ whole ++ fraction, c.isDigit = true) (hscale : fraction.length ≤ 28)
    (hfit : digitsValue (whole ++ fraction) < 2 ^ 96) (negative : Bool) :
    readPlain? ((if negative then ['-'] else []) ++ (whole ++ if fraction = [] then [] else '.' :: fraction)) =
      ofParts? (negative && digitsValue (whole ++ fraction) != 0) (digitsValue (whole ++ fraction))
        fraction.length := by
  have hhead : ∀ c ∈ (whole ++ if fraction = [] then [] else '.' :: fraction).head?, c.isDigit = true := by
    intro c hc
    obtain ⟨w, whole, rfl⟩ := List.exists_cons_of_ne_nil hwhole
    obtain rfl : w = c := Option.some.inj hc
    exact hdigits w (List.mem_append_left _ List.mem_cons_self)
  rw [digitsValue_append] at hfit ⊢
  have hwholeFit : ¬2 ^ 96 ≤ digitsValue whole := by
    have hpos := Nat.le_mul_of_pos_right (digitsValue whole) (Nat.pow_pos (by decide) : 0 < 10 ^ fraction.length)
    omega
  unfold readPlain?
  rw [splitSign_append hhead]
  simp only [splitDigits?_pointed hwhole hdigits, Option.bind_eq_bind, Option.bind_some, if_neg hwholeFit,
    @fit?_eq _ 0 _ (by omega) hfit, Nat.zero_add]

theorem not_blank_pointed {whole fraction : List Char} (hdigits : ∀ c ∈ whole ++ fraction, c.isDigit = true)
    (negative : Bool) :
    ∀ c ∈ (if negative then ['-'] else []) ++ (whole ++ if fraction = [] then [] else '.' :: fraction),
      Text.isBlank c = false := by
  obtain ⟨hw, hf⟩ := List.forall_mem_append.1 hdigits
  refine List.forall_mem_append.2 ⟨?_, List.forall_mem_append.2 ⟨fun c hc => isBlank_of_isDigit (hw c hc), ?_⟩⟩
  · cases negative with
    | false => exact List.forall_mem_nil _
    | true => exact List.forall_mem_singleton.2 rfl
  · split
    · exact List.forall_mem_nil _
    · exact List.forall_mem_cons.2 ⟨rfl, fun c hc => isBlank_of_isDigit (hf c hc)⟩

theorem trimChars_text (d : Decimal) : trimChars d.text.toList = d.text.toList := by
  obtain ⟨whole, fraction, -, -, hdigits, -, htext⟩ := exists_pointedText d.mantissa d.scale
  rw [text, String.toList_ofList, htext]
  exact Text.trimChars_of_forall (not_blank_pointed hdigits d.negative)

/-- A decimal is read back from its text with its scale; a zero loses its sign. -/
theorem read?_text (d : Decimal) :
    read? (trimChars d.text.toList) = ofParts? (d.negative && d.mantissa != 0) d.mantissa d.scale := by
  obtain ⟨whole, fraction, hwhole, hlength, hdigits, hvalue, htext⟩ := exists_pointedText d.mantissa d.scale
  have hplain := readPlain?_pointed hwhole hdigits (hlength ▸ d.scale_le) (hvalue ▸ d.mantissa_lt) d.negative
  rw [hvalue, hlength] at hplain
  rw [trimChars_text, text, String.toList_ofList, htext, read?, hplain, ofParts?,
    dif_pos ⟨d.mantissa_lt, d.scale_le⟩]
  rfl

end TypedSql.Decimal
