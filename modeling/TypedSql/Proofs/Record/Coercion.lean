import TypedSql.Materialize
import TypedSql.Proofs.Calendar.Timestamp
import TypedSql.Proofs.Number.Binary

/-!
# Values brought to a kind

* `Value.Becomes k v w` : the value `w` of kind `k` stands for what `v` stands for;
* `Value.Keeps k v w` : `w` is such a value, or the text of `v` where there is none;
* `Value.IsLossy k v` : a whole float beyond sixty-four bits, or an integer of too many significant bits for a float;
* `coerce_keeps_iff` : a value is kept if and only if it is not lossy.
-/

namespace TypedSql

namespace Value

/-! ## Values of a kind -/

/-- The kind of a value; null is of none. -/
def kind? : Value → Option ValueKind
  | null => none
  | int _ => some .int
  | float _ => some .float
  | bool _ => some .bool
  | text _ => some .text
  | timestamp _ => some .timestamp

/-- A value of a kind that stands for what another value stands for: numbers for their exact value, a truth value for
one or zero, an integer for whether it is not zero or for so many milliseconds since 1970-01-01 00:00:00. -/
inductive Becomes : ValueKind → Value → Value → Prop where
  | same {kind : ValueKind} {v : Value} (h : v.kind? = some kind) : Becomes kind v v
  | whole {x : Double} {n : Signed 64} (hx : x.isFinite = true) (h : x.value = n.val) : Becomes .int (float x) (int n)
  | bit {b : Bool} {n : Signed 64} (h : n.val = if b then 1 else 0) : Becomes .int (bool b) (int n)
  | float {n : Signed 64} {x : Double} (hx : x.isFinite = true) (h : x.value = n.val) : Becomes .float (int n) (float x)
  | truth {n : Signed 64} {b : Bool} (h : b = true ↔ n.val ≠ 0) : Becomes .bool (int n) (bool b)
  | moment {n : Signed 64} {t : Timestamp} (ht : t.clock.isLeap = false) (h : t.epochNanos = n.val * 10 ^ 6) :
      Becomes .timestamp (int n) (timestamp t)

/-- What a value is kept as: null as null, and others as a value of the kind, or as text where there is none. -/
inductive Keeps (kind : ValueKind) : Value → Value → Prop where
  | null : Keeps kind null null
  | fits {v w : Value} (h : Becomes kind v w) : Keeps kind v w
  | text {v : Value} (hv : v ≠ null) (h : ∀ w, ¬ Becomes kind v w) : Keeps kind v (text v.display)

/-- The values that change: a whole float beyond the integers of sixty-four bits, as an integer; and an integer of more
than fifty-three significant bits, as a float. -/
def IsLossy : ValueKind → Value → Prop
  | .int, float x => x.isFinite = true ∧ ∃ n : Int, x.value = n ∧ ¬ (-2 ^ 63 ≤ n ∧ n < 2 ^ 63)
  | .float, int n => ∀ m e : Nat, n.val.natAbs = m * 2 ^ e → 2 ^ 53 ≤ m
  | _, _ => False

/-! ## What numbers become -/

variable {x : Double} {n : Signed 64} {w : Value}

theorem becomes_int_iff : Becomes .int (float x) w ↔ ∃ n : Signed 64, w = int n ∧ x.toInt? = some n.val := by
  simp only [Binary.toInt?_eq_some_iff]
  constructor
  · rintro (h | ⟨hx, h⟩)
    · cases h
    · exact ⟨_, rfl, hx, h⟩
  · rintro ⟨n, rfl, hx, h⟩
    exact .whole hx h

theorem becomes_timestamp_iff :
    Becomes .timestamp (int n) w ↔ ∃ t, w = timestamp t ∧ Timestamp.ofEpochMillis? n.val = some t := by
  simp only [Timestamp.ofEpochMillis?, Timestamp.ofEpochNanos?_eq_some_iff]
  constructor
  · rintro (h | _ | _ | _ | _ | ⟨ht, h⟩)
    · cases h
    · exact ⟨_, rfl, ht, h⟩
  · rintro ⟨t, rfl, ht, h⟩
    exact .moment ht h

/-- The value of a float has no more than fifty-three significant bits. -/
theorem exists_shift_of_becomes (h : Becomes .float (int n) w) :
    ∃ m e : Nat, n.val.natAbs = m * 2 ^ e ∧ m < 2 ^ 53 := by
  cases h with
  | same h => cases h
  | float hx h => exact Binary.exists_shift h

theorem becomes_float {m e : Nat} (hn : n.val.natAbs = m * 2 ^ e) (hm : m < 2 ^ 53) :
    Becomes .float (int n) (float (Binary.ofInt .double n.val)) := by
  have hlow := n.low_le
  have hhigh := n.lt_high
  obtain ⟨k, hk, hn⟩ : ∃ k < 64, n.val.natAbs = m * 2 ^ k := by
    rcases Nat.eq_zero_or_pos m with rfl | hpos
    · exact ⟨0, by decide, by omega⟩
    · refine ⟨e, (Nat.pow_lt_pow_iff_right (a := 2) (by decide)).1 ?_, hn⟩
      have hle := Nat.le_mul_of_pos_left (2 ^ e) hpos
      omega
  have hleast : Format.double.leastScale = -1074 := rfl
  have htop : Format.double.topExponent = 2047 := rfl
  obtain ⟨hx, hv⟩ := Binary.value_ofInt (f := .double) (j := k + 1074) hm hn (by omega) (by omega)
  exact .float hx hv

end Value

theorem Signed.val_clamp_iff {n : Int} : (Signed.clamp n).val = n ↔ -2 ^ 63 ≤ n ∧ n < 2 ^ 63 := by
  unfold clamp
  split_ifs <;> dsimp only <;> omega

open Value

/-! ## Coercion -/

theorem coerce_int_float (x : Double) : coerce .int (.float x) =
    x.toInt?.elim (.text (Value.float x).display) fun n => .int (Signed.clamp n) := by
  unfold coerce
  dsimp only
  cases x.toInt? <;> rfl

theorem coerce_timestamp_int (n : Signed 64) : coerce .timestamp (.int n) =
    (Timestamp.ofEpochMillis? n.val).elim (.text (Value.int n).display) .timestamp := by
  unfold coerce
  dsimp only
  cases Timestamp.ofEpochMillis? n.val <;> rfl

theorem keeps_coerce_int (x : Double) :
    Keeps .int (.float x) (coerce .int (.float x)) ↔ ¬ IsLossy .int (.float x) := by
  have hlossy : IsLossy .int (.float x) ↔ ∃ n, x.toInt? = some n ∧ ¬ (-2 ^ 63 ≤ n ∧ n < 2 ^ 63) := by
    simp only [IsLossy, Binary.toInt?_eq_some_iff, and_assoc, exists_and_left]
  rw [hlossy, coerce_int_float]
  cases hx : x.toInt? with
  | none =>
    refine iff_of_true (.text nofun fun w h => ?_) nofun
    obtain ⟨n, -, hn⟩ := becomes_int_iff.1 h
    rw [hx] at hn
    cases hn
  | some n =>
    simp only [Option.some.injEq, exists_eq_left', not_not, ← Signed.val_clamp_iff]
    constructor
    · rintro (_ | h)
      obtain ⟨m, hm, hn⟩ := becomes_int_iff.1 h
      cases hm
      rw [hx] at hn
      exact (Option.some.inj hn).symm
    · intro h
      exact .fits (becomes_int_iff.2 ⟨_, rfl, hx.trans (congrArg some h.symm)⟩)

theorem keeps_coerce_float (n : Signed 64) :
    Keeps .float (.int n) (coerce .float (.int n)) ↔ ¬ IsLossy .float (.int n) := by
  constructor
  · rintro (_ | h) hlossy
    obtain ⟨m, e, hn, hm⟩ := exists_shift_of_becomes h
    exact Nat.not_lt.2 (hlossy m e hn) hm
  · intro h
    simp only [IsLossy, not_forall, Nat.not_le] at h
    obtain ⟨m, e, hn, hm⟩ := h
    exact .fits (becomes_float hn hm)

theorem keeps_coerce_timestamp (n : Signed 64) : Keeps .timestamp (.int n) (coerce .timestamp (.int n)) := by
  rw [coerce_timestamp_int]
  cases ht : Timestamp.ofEpochMillis? n.val with
  | none =>
    refine .text nofun fun w h => ?_
    obtain ⟨t, -, hsome⟩ := becomes_timestamp_iff.1 h
    rw [ht] at hsome
    cases hsome
  | some t => exact .fits (becomes_timestamp_iff.2 ⟨t, rfl, ht⟩)

theorem coerce_eq_null_iff (kind : ValueKind) (v : Value) : coerce kind v = .null ↔ v = .null := by
  fun_cases coerce kind v <;> simp_all

/-- What changes is not made text, but another value of the kind. -/
theorem kind?_coerce_of_isLossy {kind : ValueKind} {v : Value} (h : IsLossy kind v) :
    (coerce kind v).kind? = some kind := by
  unfold IsLossy at h
  split at h
  · next x =>
    obtain ⟨hx, n, hn, -⟩ := h
    rw [coerce_int_float, Binary.toInt?_eq_some_iff.2 ⟨hx, hn⟩]
    rfl
  · rfl
  · cases h

/-- Null stays null, and nothing else becomes null. A value is brought to a kind as a value of that kind that stands for
the same, or as its text where there is none, if and only if it is neither a whole float beyond sixty-four bits nor an
integer of more than fifty-three significant bits that is made a float; and these become others of the kind. -/
theorem coerce_keeps_iff (kind : ValueKind) (v : Value) :
    (coerce kind v = .null ↔ v = .null) ∧ (Keeps kind v (coerce kind v) ↔ ¬ IsLossy kind v) ∧
      (IsLossy kind v → (coerce kind v).kind? = some kind) := by
  refine ⟨coerce_eq_null_iff kind v, ?_, kind?_coerce_of_isLossy⟩
  cases v with
  | null => cases kind <;> exact iff_of_true .null id
  | int n =>
    cases kind with
    | int => exact iff_of_true (.fits (.same rfl)) id
    | float => exact keeps_coerce_float n
    | bool => exact iff_of_true (.fits (.truth bne_iff_ne)) id
    | timestamp => exact iff_of_true (keeps_coerce_timestamp n) id
    | text => exact iff_of_true (.text nofun fun | _, .same h => nomatch h) id
  | float x =>
    cases kind with
    | int => exact keeps_coerce_int x
    | float => exact iff_of_true (.fits (.same rfl)) id
    | bool | timestamp | text => exact iff_of_true (.text nofun fun | _, .same h => nomatch h) id
  | bool b =>
    cases kind with
    | int => exact iff_of_true (.fits (.bit (by cases b <;> rfl))) id
    | bool => exact iff_of_true (.fits (.same rfl)) id
    | float | timestamp | text => exact iff_of_true (.text nofun fun | _, .same h => nomatch h) id
  | text s =>
    cases kind with
    | text => exact iff_of_true (.fits (.same rfl)) id
    | int | float | bool | timestamp => exact iff_of_true (.text nofun fun | _, .same h => nomatch h) id
  | timestamp t =>
    cases kind with
    | timestamp => exact iff_of_true (.fits (.same rfl)) id
    | int | float | bool | text => exact iff_of_true (.text nofun fun | _, .same h => nomatch h) id

/-- The float of `2 ^ 63` becomes the integer before it, and the integer after `2 ^ 53` the float of that. -/
theorem coerce_lossy :
    let x : Double := ⟨false, 1086, 0⟩
    let n : Signed 64 := ⟨2 ^ 53 + 1, by decide, by decide⟩
    let y : Double := ⟨false, 1076, 0⟩
    (x.isFinite = true ∧ x.value = (2 ^ 63 : Int) ∧
      coerce .int (.float x) = .int ⟨2 ^ 63 - 1, by decide, by decide⟩ ∧
      ¬ Keeps .int (.float x) (coerce .int (.float x))) ∧
    (coerce .float (.int n) = .float y ∧ y.value = (2 ^ 53 : Int) ∧
      ¬ Keeps .float (.int n) (coerce .float (.int n))) := by
  intro x n y
  have hx : x.toInt? = some (2 ^ 63) := by decide +kernel
  have hy : y.toInt? = some (2 ^ 53) := by decide +kernel
  obtain ⟨hfinite, hvalue⟩ := Binary.toInt?_eq_some_iff.1 hx
  refine ⟨⟨hfinite, hvalue, by decide +kernel, fun h => ?_⟩, by decide +kernel, (Binary.toInt?_eq_some_iff.1 hy).2,
    fun h => ?_⟩
  · exact (keeps_coerce_int x).1 h ⟨hfinite, _, hvalue, by decide⟩
  · refine (keeps_coerce_float n).1 h fun m e hm => ?_
    -- an odd number is not shifted
    have hn : n.val.natAbs = 2 ^ 53 + 1 := rfl
    cases e with
    | zero => omega
    | succ e =>
      rw [Nat.pow_succ] at hm
      have hdvd : 2 ∣ n.val.natAbs := ⟨m * 2 ^ e, by rw [hm]; ring⟩
      omega

end TypedSql
