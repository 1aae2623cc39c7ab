import TypedSql.Parameter
import TypedSql.Proofs.Traversal

/-!
# Values bound by position

* `SqlType.isTextual` : the types to which every value is bound, as its text;
* `bindAt_eq_ok_iff` : a value other than null is bound if its conversion succeeds;
* `bindAll_eq_ok_iff`, `exists_bindAll` : as many values as types are bound if each fits its type;
* `bindAll_eq_error_iff` : else the error is that of the first misfit;
* `coercion_of_bindAt` : which tells its position.
-/

namespace TypedSql
variable {types : List SqlType} {values : List Value}

/-! ## Conversion -/

/-- A type whose parameters are texts. -/
def SqlType.isTextual : SqlType → Bool
  | char | varChar | text | other _ => true
  | _ => false

namespace Parameter

theorem orElse_eq_ok_iff {α : Type} {r : Option α} {fault : Unfit} {a : α} : orElse r fault = .ok a ↔ r = some a := by
  cases r <;> simp [orElse]

theorem toNarrow_eq_ok_iff {bits : Nat} {type : SqlType} {v : Value} {w : Signed bits} :
    toNarrow bits type v = .ok w ↔ ∃ n, toInteger v = .ok n ∧ w.val = n.val := by
  unfold toNarrow
  cases toInteger v with
  | error fault => simp [bind, Except.bind]
  | ok n => simp [bind, Except.bind, orElse_eq_ok_iff, Signed.ofInt?_eq_some_iff]

theorem convert_textual {type : SqlType} (htype : type.isTextual = true) (v : Value) :
    convert type v = .ok (text v.display) := by
  cases type with
  | char | varChar | text | other name => rfl
  | _ => cases htype

theorem eq_text_of_convert {type : SqlType} {v : Value} {p : Parameter} (htype : type.isTextual = true)
    (h : convert type v = .ok p) : p = text v.display :=
  Except.ok.inj (h.symm.trans (convert_textual htype v))

end Parameter

/-! ## One value -/

theorem isNull_eq_false {v : Value} (h : v ≠ .null) : v.isNull = false := by
  cases v with
  | null => exact absurd rfl h
  | _ => rfl

theorem bindAt_eq_ok_iff {position : Nat} {type : SqlType} {v : Value} {p : Parameter} (hv : v.isNull = false) :
    bindAt position type v = .ok p ↔ Parameter.convert type v = .ok p := by
  rw [bindAt, Parameter.of, if_neg (by rw [hv]; decide)]
  cases Parameter.convert type v with
  | error fault => exact ⟨nofun, nofun⟩
  | ok q => constructor <;> (rintro ⟨⟩; rfl)

theorem bindAt_of_convert {position : Nat} {type : SqlType} {v : Value} {p : Parameter} (hv : v.isNull = false)
    (h : Parameter.convert type v = .ok p) : bindAt position type v = .ok p :=
  (bindAt_eq_ok_iff hv).2 h

theorem null_or_convert_of_bindAt {position : Nat} {type : SqlType} {v : Value} {p : Parameter}
    (h : bindAt position type v = .ok p) : p = .null type ∨ Parameter.convert type v = .ok p := by
  unfold bindAt Parameter.of at h
  split at h
  · cases h
    exact .inl rfl
  · cases hp : Parameter.convert type v with
    | error fault => rw [hp] at h; cases h
    | ok q => rw [hp] at h; cases h; exact .inr rfl

theorem coercion_of_bindAt {position : Nat} {type : SqlType} {v : Value} {e : Error}
    (h : bindAt position type v = .error e) : ∃ reason, e = .coercion position reason := by
  unfold bindAt at h
  cases hp : Parameter.of type v with
  | ok p => rw [hp] at h; cases h
  | error fault => rw [hp] at h; cases h; exact ⟨fault.reason, rfl⟩

/-! ## All values -/

theorem bindFrom_eq_mapM (position : Nat) (tvs : List (SqlType × Value)) :
    bindFrom position tvs = (tvs.zipIdx position).mapM fun tv => bindAt tv.2 tv.1.1 tv.1.2 := by
  induction tvs generalizing position with
  | nil => rfl
  | cons tv tvs ih =>
    rw [bindFrom, List.zipIdx_cons, List.mapM_cons, ih]

theorem bindAll_of_length_ne (h : values.length ≠ types.length) :
    bindAll types values = .error (.countMismatch types.length values.length) := by
  rw [bindAll, if_neg (Ne.symm h)]

theorem bindAll_of_length (h : values.length = types.length) :
    bindAll types values = zipMapM bindAt 1 types values := by
  rw [bindAll, if_pos h.symm, bindFrom_eq_mapM, zipMapM]

theorem bindAll_eq_ok_iff {ps : List Parameter} : bindAll types values = .ok ps ↔
    values.length = types.length ∧ ps.length = values.length ∧ ∀ (i : Nat) type v, types[i]? = some type →
      values[i]? = some v → ∃ p, ps[i]? = some p ∧ bindAt (i + 1) type v = .ok p := by
  by_cases h : values.length = types.length
  · rw [bindAll_of_length h, zipMapM_eq_ok_iff h, and_iff_right h]
  · rw [bindAll_of_length_ne h]
    constructor
    · intro h
      cases h
    · rintro ⟨hlength, -⟩
      exact absurd hlength h

theorem exists_bindAll (hlength : values.length = types.length) (h : ∀ (i : Nat) type v, types[i]? = some type →
    values[i]? = some v → ∃ p, bindAt (i + 1) type v = .ok p) : ∃ ps, bindAll types values = .ok ps := by
  rw [bindAll_of_length hlength]
  exact exists_zipMapM h

theorem bindAll_eq_error_iff (hlength : values.length = types.length) {e : Error} : bindAll types values = .error e ↔
    ∃ (i : Nat) (type : SqlType) (v : Value), types[i]? = some type ∧ values[i]? = some v ∧
      bindAt (i + 1) type v = .error e ∧
      ∀ j < i, ∀ type v, types[j]? = some type → values[j]? = some v → ∃ p, bindAt (j + 1) type v = .ok p := by
  rw [bindAll_of_length hlength]
  exact zipMapM_eq_error_iff

end TypedSql
