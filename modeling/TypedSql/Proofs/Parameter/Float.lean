import TypedSql.Proofs.Number.Scientific
import TypedSql.Proofs.Parameter.Binding
import TypedSql.Proofs.Text.Blank

/-!
# Floating-point numbers as parameters

* `Value.StandsFor v q` : the value `v` stands for the finite number `q`;
* `Parameter.exists_toFloat` : such a value is converted to the double that `q` is rounded to;
* `bindAt_float` : it is bound to a floating-point type as a finite number if and only if `q` is below the limit of the
  type.

From the limit on the parameter is an infinity.
-/

namespace TypedSql
open Text (isBlank)

/-! ## The numbers that values stand for -/

namespace Value

/-- The number that a value stands for: its own, one and zero for the truth values, and what a text writes between
blanks. -/
inductive StandsFor : Value → ℚ → Prop where
  | int (n : Signed 64) : StandsFor (int n) n.val
  | bool (b : Bool) : StandsFor (bool b) (if b then 1 else 0)
  | float {x : Double} (hx : x.isFinite = true) : StandsFor (float x) x.value
  | text {s : String} {q : ℚ} {before body after : List Char} (hbefore : ∀ c ∈ before, isBlank c = true)
      (hafter : ∀ c ∈ after, isBlank c = true) (hs : s.toList = before ++ (body ++ after)) (h : Scientific body q) :
      StandsFor (text s) q

theorem StandsFor.isNull_eq {v : Value} {q : ℚ} (h : v.StandsFor q) : v.isNull = false := by
  cases h <;> rfl

end Value

/-! ## Floating-point types -/

/-- The least absolute value that is bound to a floating-point type as an infinity: half a unit above its greatest
number, and for singles, which are rounded to doubles first, half a unit of the doubles before that. -/
def SqlType.limit? : SqlType → Option ℚ
  | real => some (2 ^ 128 - 2 ^ 103 - 2 ^ 74)
  | double => some (2 ^ 1024 - 2 ^ 970)
  | _ => none

/-- The type of a floating-point parameter that is a number, and whether it is finite. -/
def Parameter.finite? : Parameter → Option (SqlType × Bool)
  | real x => if x.isNaN then none else some (.real, x.isFinite)
  | double x => if x.isNaN then none else some (.double, x.isFinite)
  | _ => none

/-! ## Conversion -/

namespace Parameter
variable {v : Value} {q : ℚ}

theorem exists_toFloat (h : v.StandsFor q) : ∃ x, toFloat v = .ok x ∧ Binary.RoundsTo |q| x := by
  cases h with
  | int n => exact ⟨_, rfl, Binary.roundsTo_ofInt (by decide) n.val⟩
  | bool b =>
    have hval : (((Signed.ofBool b).val : ℤ) : ℚ) = if b then 1 else 0 := by cases b <;> rfl
    rw [← hval]
    exact ⟨_, rfl, Binary.roundsTo_ofInt (by decide) _⟩
  | @float x hx =>
    rw [Binary.abs_value]
    exact ⟨x, rfl, Binary.roundsTo_absValue (by decide) hx⟩
  | text hbefore hafter hs h =>
    obtain ⟨x, hread, hx⟩ := exists_readDouble? h
    refine ⟨x, orElse_eq_ok_iff.2 ?_, hx⟩
    dsimp only
    rw [hs, Text.trimChars_between hbefore hafter, Text.trimChars_of_forall h.not_blank, hread]

/-- A value that stands for a number is converted to a floating-point number, which is finite below the limit. -/
theorem exists_convert_float {type : SqlType} {limit : ℚ} (htype : type.limit? = some limit) (h : v.StandsFor q) :
    ∃ p, convert type v = .ok p ∧ p.finite? = some (type, decide (|q| < limit)) := by
  obtain ⟨x, hx, hround⟩ := exists_toFloat h
  cases type with
  | real =>
    cases htype
    obtain ⟨hnumber, hfinite⟩ := Binary.isFinite_narrow_iff hround
    refine ⟨real x.narrow, by rw [convert, hx, Except.map], ?_⟩
    rw [finite?, hnumber, if_neg (by decide), Bool.eq_iff_iff.2 (hfinite.trans decide_eq_true_iff.symm)]
    rfl
  | double =>
    cases htype
    have hfinite := hround.isFinite_iff
    rw [Binary.limit_double] at hfinite
    refine ⟨double x, by rw [convert, hx, Except.map], ?_⟩
    rw [finite?, hround.isNaN_eq, if_neg (by decide), Bool.eq_iff_iff.2 (hfinite.trans decide_eq_true_iff.symm)]
  | _ => cases htype

end Parameter

/-! ## Binding -/

/-- A value that stands for a finite number is bound to a floating-point type, as a finite number if and only if the
number is below the limit of the type, and else as an infinity. -/
theorem bindAt_float (position : Nat) {type : SqlType} {limit : ℚ} (htype : type.limit? = some limit) {v : Value}
    {q : ℚ} (hv : v.StandsFor q) :
    ∃ p, bindAt position type v = .ok p ∧ p.finite? = some (type, decide (|q| < limit)) := by
  obtain ⟨p, hp, hfinite⟩ := Parameter.exists_convert_float htype hv
  exact ⟨p, bindAt_of_convert hv.isNull_eq hp, hfinite⟩

/-- Two numbers of seventeen digits, one on either side of the limit of singles. -/
theorem bindAt_float_singleLimit :
    (∃ p, bindAt 5 .real (.text "3.4028235677973364e38\n") = .ok p ∧ p.finite? = some (.real, true)) ∧
      ∃ p, bindAt 2 .real (.text "-3.4028235677973365E+38") = .ok p ∧ p.finite? = some (.real, false) := by
  have hlimit : SqlType.limit? .real = some (2 ^ 128 - 2 ^ 103 - 2 ^ 74) := rfl
  have hexponent : decimalValue ['3', '8'] = 38 := by decide +kernel
  constructor
  · have hwritten := Scientific.bare (.pointed
      (by decide +kernel : ['3'] ++ "4028235677973364".toList ≠ []) (List.all_eq_true.1 (by decide +kernel))
      (.marked (.inl rfl) (.bare (List.cons_ne_nil '3' ['8']) (List.all_eq_true.1 rfl))))
    have hvalue : decimalValue (['3'] ++ "4028235677973364".toList) = 34028235677973364 := by decide +kernel
    have hlength : "4028235677973364".toList.length = 16 := by decide +kernel
    have hstands : Value.StandsFor (.text "3.4028235677973364e38\n") _ :=
      .text (List.forall_mem_nil _) (List.forall_mem_singleton.2 (rfl : isBlank '\n' = true)) (by decide +kernel)
        hwritten
    obtain ⟨p, hp, hfinite⟩ := bindAt_float 5 hlimit hstands
    refine ⟨p, hp, hfinite.trans ?_⟩
    rw [hvalue, hlength, hexponent]
    norm_num
  · have hwritten := Scientific.minus (.pointed
      (by decide +kernel : ['3'] ++ "4028235677973365".toList ≠ []) (List.all_eq_true.1 (by decide +kernel))
      (.marked (.inr rfl) (.plus (List.cons_ne_nil '3' ['8']) (List.all_eq_true.1 rfl))))
    have hvalue : decimalValue (['3'] ++ "4028235677973365".toList) = 34028235677973365 := by decide +kernel
    have hlength : "4028235677973365".toList.length = 16 := by decide +kernel
    have hstands : Value.StandsFor (.text "-3.4028235677973365E+38") _ :=
      .text (List.forall_mem_nil _) (List.forall_mem_nil _) (by decide +kernel) hwritten
    obtain ⟨p, hp, hfinite⟩ := bindAt_float 2 hlimit hstands
    refine ⟨p, hp, hfinite.trans ?_⟩
    rw [hvalue, hlength, hexponent]
    norm_num

/-- A number beyond the limit is bound as an infinity: a text as a double, and a double as a single. -/
theorem bindAt_infinity :
    let x : Double := ⟨false, 2046, 0⟩
    (∃ q, Value.StandsFor (.text "1e400") q) ∧
      bindAt 1 .double (.text "1e400") = .ok (.double (.infinity .double false)) ∧
      (∃ q, Value.StandsFor (.float x) q) ∧ bindAt 1 .real (.float x) = .ok (.real (.infinity .single false)) ∧
      (Binary.infinity .double false).isFinite = false ∧ (Binary.infinity .single false).isFinite = false := by
  intro x
  have hwritten := Scientific.bare (.whole (List.cons_ne_nil '1' []) (List.forall_mem_singleton.2 rfl)
    (.marked (.inl rfl) (.bare (List.cons_ne_nil '4' ['0', '0']) (List.all_eq_true.1 rfl))))
  refine ⟨⟨_, @Value.StandsFor.text _ _ [] _ [] (List.forall_mem_nil _) (List.forall_mem_nil _) rfl hwritten⟩, ?_,
    ⟨_, .float rfl⟩, ?_, rfl, rfl⟩ <;> decide +kernel

end TypedSql
