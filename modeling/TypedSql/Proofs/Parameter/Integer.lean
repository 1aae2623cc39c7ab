import TypedSql.Proofs.Number.Binary
import TypedSql.Proofs.Number.Numeral
import TypedSql.Proofs.Parameter.Binding
import TypedSql.Proofs.Text.Blank

/-!
# Integers as parameters

* `Value.Denotes v n` : the value `v` stands for the integer `n`;
* `Parameter.toInteger_eq_ok_iff` : such a value is converted to `n`, if sixty-four bits hold it, but for one float;
* `bindAt_integer` : a value is bound to an integer type if and only if it stands for an integer of its width.

The float of the lowest integer of sixty-four bits is refused.
-/

namespace TypedSql
open Text (isBlank trimChars)

/-! ## The integers that values stand for -/

namespace Value

/-- The integer that a value stands for: that of a number without a fractional part, one and zero for the truth values,
and what a text writes between blanks. -/
inductive Denotes : Value → Int → Prop where
  | int (n : Signed 64) : Denotes (int n) n.val
  | bool (b : Bool) : Denotes (bool b) (if b then 1 else 0)
  | float {x : Double} {n : Int} (hx : x.isFinite = true) (h : x.value = n) : Denotes (float x) n
  | text {s : String} {n : Int} {before body after : List Char} (hbefore : ∀ c ∈ before, isBlank c = true)
      (hafter : ∀ c ∈ after, isBlank c = true) (hs : s.toList = before ++ (body ++ after)) (h : Numeral body n) :
      Denotes (text s) n

/-- A number, a truth value or a text. -/
def IsPlain : Value → Prop
  | int _ | float _ | bool _ | text _ => True
  | null | timestamp _ => False

theorem IsPlain.isNull_eq {v : Value} (h : v.IsPlain) : v.isNull = false := by
  cases v with
  | null => cases h
  | _ => rfl

theorem denotes_int_iff {n : Signed 64} {m : Int} : Denotes (int n) m ↔ n.val = m := by
  constructor
  · rintro ⟨⟩
    rfl
  · rintro rfl
    exact .int n

theorem denotes_bool_iff {b : Bool} {m : Int} : Denotes (bool b) m ↔ (Signed.ofBool b).val = m := by
  have hval : (Signed.ofBool b).val = if b then 1 else 0 := by cases b <;> rfl
  rw [hval]
  constructor
  · rintro ⟨⟩
    rfl
  · rintro rfl
    exact .bool b

theorem denotes_text_iff {s : String} {n : Int} : Denotes (text s) n ↔ readInt? (trimChars s.toList) = some n := by
  constructor
  · rintro (_ | _ | _ | ⟨hbefore, hafter, hs, h⟩)
    rw [hs, Text.trimChars_between hbefore hafter, Text.trimChars_of_forall h.not_blank]
    exact readInt?_eq_some_iff.2 h
  · intro h
    obtain ⟨before, after, hbefore, hafter, hs⟩ := Text.exists_trimChars s.toList
    exact .text hbefore hafter hs (readInt?_eq_some_iff.1 h)

theorem denotes_float_iff {x : Double} {n : Int} : Denotes (float x) n ↔ x.toInt? = some n := by
  rw [Binary.toInt?_eq_some_iff]
  constructor
  · rintro (_ | _ | ⟨hx, h⟩)
    exact ⟨hx, h⟩
  · rintro ⟨hx, h⟩
    exact .float hx h

/-- A value stands for one integer at most. -/
theorem Denotes.eq {v : Value} {n m : Int} (hn : v.Denotes n) (hm : v.Denotes m) : n = m := by
  cases v with
  | null | timestamp t => cases hn
  | int i => rw [← denotes_int_iff.1 hn, ← denotes_int_iff.1 hm]
  | bool b => rw [← denotes_bool_iff.1 hn, ← denotes_bool_iff.1 hm]
  | float x => exact Option.some.inj ((denotes_float_iff.1 hn).symm.trans (denotes_float_iff.1 hm))
  | text s => exact Option.some.inj ((denotes_text_iff.1 hn).symm.trans (denotes_text_iff.1 hm))

/-- The float of the lowest integer of sixty-four bits. -/
def IsLowest (v : Value) : Prop :=
  ∃ x, v = float x ∧ Denotes (float x) (-2 ^ 63)

theorem isLowest_float_iff {x : Double} : IsLowest (float x) ↔ x.toInt? = some (-2 ^ 63) := by
  rw [← denotes_float_iff]
  constructor
  · rintro ⟨_, ⟨⟩, h⟩
    exact h
  · exact fun h => ⟨x, rfl, h⟩

end Value

/-! ## Integer types -/

/-- The width of an integer type. -/
def SqlType.bits? : SqlType → Option Nat
  | smallInt => some 16
  | integer => some 32
  | bigInt => some 64
  | _ => none

/-- The integer of a parameter of an integer type, with the type. -/
def Parameter.integer? : Parameter → Option (SqlType × Int)
  | smallInt n => some (.smallInt, n.val)
  | integer n => some (.integer, n.val)
  | bigInt n => some (.bigInt, n.val)
  | _ => none

/-- The integer types are no wider than sixty-four bits, and only the widest reaches the lowest integer. -/
theorem SqlType.fits_of_bits? {type : SqlType} {bits : Nat} (htype : type.bits? = some bits) {n : Int}
    (hlow : -2 ^ (bits - 1) ≤ n) (hhigh : n < 2 ^ (bits - 1)) :
    -2 ^ 63 ≤ n ∧ n < 2 ^ 63 ∧ (n = -2 ^ 63 → type = .bigInt) := by
  cases type with
  | smallInt | integer | bigInt =>
    cases htype
    norm_num at hlow hhigh ⊢
    omega
  | _ => cases htype

theorem Signed.some_eq_some_iff {bits : Nat} {n w : Signed bits} : some n = some w ↔ n.val = w.val := by
  rw [← Signed.ofInt?_eq_some_iff.2 rfl, Signed.ofInt?_eq_some_iff, eq_comm]

/-! ## Conversion -/

namespace Parameter
variable {v : Value}

theorem integerOfDouble?_eq_some_iff {x : Double} {w : Signed 64} :
    integerOfDouble? x = some w ↔ x.toInt? = some w.val ∧ w.val ≠ -2 ^ 63 := by
  have hlow := w.low_le
  have hhigh := w.lt_high
  unfold integerOfDouble?
  cases hx : x.toInt? with
  | none => simp
  | some n =>
    dsimp only
    -- the bound on the magnitude leaves out the lowest integer, and no other
    split
    · rw [Signed.ofInt?_eq_some_iff, Option.some.injEq]
      omega
    · rw [Option.some.injEq]
      constructor
      · nofun
      · rintro ⟨rfl, hne⟩
        omega

theorem toInteger_eq_ok_iff (hv : v.IsPlain) {w : Signed 64} :
    toInteger v = .ok w ↔ v.Denotes w.val ∧ ¬ v.IsLowest := by
  unfold toInteger
  rw [orElse_eq_ok_iff]
  cases v with
  | null | timestamp t => cases hv
  | int n => rw [Signed.some_eq_some_iff, Value.denotes_int_iff, and_iff_left nofun]
  | bool b => rw [Signed.some_eq_some_iff, Value.denotes_bool_iff, and_iff_left nofun]
  | float x =>
    dsimp only
    rw [integerOfDouble?_eq_some_iff, Value.denotes_float_iff, and_congr_right_iff]
    intro hx
    rw [Value.isLowest_float_iff, hx, Option.some.injEq]
  | text s =>
    rw [Option.bind_eq_some_iff, Value.denotes_text_iff, and_iff_left nofun]
    simp only [Signed.ofInt?_eq_some_iff, exists_eq_right']

theorem toNarrow_of_toInteger {bits : Nat} {type : SqlType} {n : Signed 64} (hn : toInteger v = .ok n)
    (hlow : -2 ^ (bits - 1) ≤ n.val) (hhigh : n.val < 2 ^ (bits - 1)) :
    toNarrow bits type v = .ok ⟨n.val, hlow, hhigh⟩ :=
  toNarrow_eq_ok_iff.2 ⟨n, hn, rfl⟩

theorem exists_of_toNarrow {bits : Nat} {type : SqlType} {w : Signed bits} (h : toNarrow bits type v = .ok w) :
    ∃ n, toInteger v = .ok n ∧ -2 ^ (bits - 1) ≤ n.val ∧ n.val < 2 ^ (bits - 1) := by
  obtain ⟨n, hn, hval⟩ := toNarrow_eq_ok_iff.1 h
  exact ⟨n, hn, hval ▸ w.low_le, hval ▸ w.lt_high⟩

/-- A value whose integer fits the width of an integer type is converted to that integer. -/
theorem exists_convert_integer {type : SqlType} {bits : Nat} (htype : type.bits? = some bits) {n : Signed 64}
    (hn : toInteger v = .ok n) (hlow : -2 ^ (bits - 1) ≤ n.val) (hhigh : n.val < 2 ^ (bits - 1)) :
    ∃ p, convert type v = .ok p ∧ p.integer? = some (type, n.val) := by
  cases type with
  | smallInt =>
    cases htype
    exact ⟨smallInt ⟨n.val, hlow, hhigh⟩, by rw [convert, toNarrow_of_toInteger hn hlow hhigh, Except.map], rfl⟩
  | integer =>
    cases htype
    exact ⟨integer ⟨n.val, hlow, hhigh⟩, by rw [convert, toNarrow_of_toInteger hn hlow hhigh, Except.map], rfl⟩
  | bigInt => exact ⟨bigInt n, by rw [convert, hn, Except.map], rfl⟩
  | _ => cases htype

/-- What is converted to an integer type has an integer that fits its width. -/
theorem exists_of_convert_integer {type : SqlType} {bits : Nat} (htype : type.bits? = some bits) {p : Parameter}
    (h : convert type v = .ok p) :
    ∃ n, toInteger v = .ok n ∧ -2 ^ (bits - 1) ≤ n.val ∧ n.val < 2 ^ (bits - 1) := by
  cases type with
  | smallInt | integer =>
    cases htype
    obtain ⟨w, hw, -⟩ := exists_of_map_eq_ok h
    exact exists_of_toNarrow hw
  | bigInt =>
    cases htype
    obtain ⟨n, hn, -⟩ := exists_of_map_eq_ok h
    exact ⟨n, hn, n.low_le, n.lt_high⟩
  | _ => cases htype

end Parameter

/-! ## Binding -/

/-- A number, a truth value or a text is bound to an integer type if and only if it stands for an integer of its width,
which is then the parameter; all others are refused at their position. For the widest type this leaves out the float of
the lowest integer. -/
theorem bindAt_integer (position : Nat) {type : SqlType} {bits : Nat} (htype : type.bits? = some bits) {v : Value}
    (hv : v.IsPlain) (hlowest : type = .bigInt → ¬ v.IsLowest) :
    (∀ n, v.Denotes n → -2 ^ (bits - 1) ≤ n → n < 2 ^ (bits - 1) →
      ∃ p, bindAt position type v = .ok p ∧ p.integer? = some (type, n)) ∧
    ((∀ n, v.Denotes n → ¬ (-2 ^ (bits - 1) ≤ n ∧ n < 2 ^ (bits - 1))) →
      ∃ reason, bindAt position type v = .error (.coercion position reason)) := by
  constructor
  · intro n hn hlow hhigh
    obtain ⟨hlow', hhigh', hwide⟩ := SqlType.fits_of_bits? htype hlow hhigh
    have hne : ¬ v.IsLowest := by
      rintro ⟨x, rfl, hx⟩
      exact hlowest (hwide (hn.eq hx)) ⟨x, rfl, hx⟩
    have hread : Parameter.toInteger v = .ok ⟨n, hlow', hhigh'⟩ := (Parameter.toInteger_eq_ok_iff hv).2 ⟨hn, hne⟩
    obtain ⟨p, hp, hinteger⟩ := Parameter.exists_convert_integer htype hread hlow hhigh
    exact ⟨p, bindAt_of_convert hv.isNull_eq hp, hinteger⟩
  · intro hout
    cases hb : bindAt position type v with
    | ok p =>
      obtain ⟨n, hn, hfits⟩ := Parameter.exists_of_convert_integer htype ((bindAt_eq_ok_iff hv.isNull_eq).1 hb)
      exact absurd hfits (hout n.val ((Parameter.toInteger_eq_ok_iff hv).1 hn).1)
    | error e =>
      obtain ⟨reason, rfl⟩ := coercion_of_bindAt hb
      exact ⟨reason, rfl⟩

/-- The lowest integer of sixteen bits between a tab and an ideographic space, and a half. -/
theorem bindAt_integer_sixteenBits :
    (∃ p, bindAt 7 .smallInt (.text "\t-32768\u3000") = .ok p ∧ p.integer? = some (.smallInt, -32768)) ∧
      ∃ reason, bindAt 2 .smallInt (.float ⟨false, 1022, 0⟩) = .error (.coercion 2 reason) := by
  constructor
  · have hvalue : -(decimalValue ['3', '2', '7', '6', '8'] : Int) = -32768 := by decide +kernel
    have hwritten : Numeral ['-', '3', '2', '7', '6', '8'] (-32768) := by
      rw [← hvalue]
      exact .minus (List.cons_ne_nil _ _) (List.all_eq_true.1 rfl)
    have hn : Value.Denotes (.text "\t-32768\u3000") (-32768) :=
      @Value.Denotes.text _ _ ['\t'] _ ['\u3000'] (List.forall_mem_singleton.2 rfl)
        (List.forall_mem_singleton.2 rfl) rfl hwritten
    have hplain : (Value.text "\t-32768\u3000").IsPlain := trivial
    exact (@bindAt_integer 7 .smallInt 16 rfl _ hplain nofun).1 _ hn (by decide) (by decide)
  · have hnone : Binary.toInt? (⟨false, 1022, 0⟩ : Double) = none := by decide +kernel
    have hplain : (Value.float ⟨false, 1022, 0⟩).IsPlain := trivial
    refine (@bindAt_integer 2 .smallInt 16 rfl _ hplain nofun).2 fun n hn => ?_
    rw [Value.denotes_float_iff, hnone] at hn
    cases hn

/-- The lowest integer of sixty-four bits is bound as an integer and as a text, but refused as a float. -/
theorem bindAt_lowestFloat :
    let lowest : Signed 64 := ⟨-2 ^ 63, by decide, by decide⟩
    let x : Double := ⟨true, 1086, 0⟩
    Value.Denotes (.float x) (-2 ^ 63) ∧
      bindAt 1 .bigInt (.float x) = .error (.coercion 1 "-9223372036854776000 is not an integer") ∧
      bindAt 1 .bigInt (.int lowest) = .ok (.bigInt lowest) ∧
      bindAt 1 .bigInt (.text "-9223372036854775808") = .ok (.bigInt lowest) := by
  intro lowest x
  refine ⟨Value.denotes_float_iff.2 ?_, ?_, rfl, ?_⟩ <;> decide +kernel

end TypedSql
