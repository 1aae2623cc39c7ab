import TypedSql.Proofs.Parameter.Binding

/-!
# Parameters by position

* `Parameter.Suits` : the form that a type dictates to a value other than null, which is the form of every conversion;
* `form_of_bindAt` : a parameter is null with its type if the value is null, and else suits the type;
* `bindAll_positions` : as many values as types are bound all together, each at its position, or none is.
-/

namespace TypedSql

/-! ## The form of a parameter -/

/-- The form that a type dictates to a value other than null. -/
inductive Parameter.Suits : SqlType → Parameter → Prop
  | smallInt (n : Signed 16) : Suits .smallInt (.smallInt n)
  | integer (n : Signed 32) : Suits .integer (.integer n)
  | bigInt (n : Signed 64) : Suits .bigInt (.bigInt n)
  | real (x : Single) : Suits .real (.real x)
  | double (x : Double) : Suits .double (.double x)
  | numeric (d : Decimal) : Suits .numeric (.numeric d)
  | boolean (b : Bool) : Suits .boolean (.bool b)
  | date (d : Date) : Suits .date (.date d)
  | time (c : Clock) : Suits .time (.time c)
  | timestamp (t : Timestamp) : Suits .timestamp (.timestamp t)
  | timestampTz (t : Timestamp) : Suits .timestampTz (.timestampTz t)
  | text {type : SqlType} (htype : type.isTextual = true) (s : String) : Suits type (.text s)

theorem Parameter.suits_of_convert {type : SqlType} {v : Value} {p : Parameter} (h : convert type v = .ok p) :
    Suits type p := by
  cases type with
  | char | varChar | text | other name =>
    cases h
    exact .text rfl _
  | _ =>
    obtain ⟨a, -, rfl⟩ := exists_of_map_eq_ok h
    constructor

section
variable {position : Nat} {type : SqlType} {v : Value}

theorem bindAt_null : bindAt position type .null = .ok (.null type) := rfl

theorem exists_bindAt_of_isTextual (htype : type.isTextual = true) : ∃ p, bindAt position type v = .ok p := by
  by_cases hv : v = .null
  · exact ⟨.null type, by rw [hv, bindAt_null]⟩
  · exact ⟨_, bindAt_of_convert (isNull_eq_false hv) (Parameter.convert_textual htype v)⟩

theorem form_of_bindAt {p : Parameter} (h : bindAt position type v = .ok p) :
    (p = .null type ↔ v = .null) ∧ (v ≠ .null → p.Suits type) := by
  by_cases hv : v = .null
  · rw [hv, bindAt_null] at h
    cases h
    exact ⟨iff_of_true rfl hv, absurd hv⟩
  · have hp := Parameter.suits_of_convert ((bindAt_eq_ok_iff (isNull_eq_false hv)).1 h)
    refine ⟨iff_of_false ?_ hv, fun _ => hp⟩
    rintro rfl
    cases hp

end

/-! ## All parameters -/

/-- Lists of different lengths are told apart whatever the values are. Otherwise either each value has its parameter, in
the form of its type, or the first that has none gives its error. -/
theorem bindAll_positions (types : List SqlType) (values : List Value) :
    (values.length ≠ types.length → bindAll types values = .error (.countMismatch types.length values.length)) ∧
    (values.length = types.length →
      ((∃ ps, bindAll types values = .ok ps) ↔ ∀ (i : Nat) type v, types[i]? = some type → values[i]? = some v →
        ∃ p, bindAt (i + 1) type v = .ok p) ∧
      (∀ ps, bindAll types values = .ok ps → ps.length = values.length ∧
        ∀ (i : Nat) type v, types[i]? = some type → values[i]? = some v → ∃ p, ps[i]? = some p ∧
          bindAt (i + 1) type v = .ok p ∧ (p = .null type ↔ v = .null) ∧ (v ≠ .null → p.Suits type)) ∧
      ∀ e, bindAll types values = .error e ↔ ∃ (i : Nat) (type : SqlType) (v : Value), types[i]? = some type ∧
        values[i]? = some v ∧ bindAt (i + 1) type v = .error e ∧ (∃ reason, e = .coercion (i + 1) reason) ∧
        ∀ j < i, ∀ type v, types[j]? = some type → values[j]? = some v → ∃ p, bindAt (j + 1) type v = .ok p) ∧
    ∀ position (type : SqlType) v, type.isTextual = true → ∃ p, bindAt position type v = .ok p := by
  refine ⟨bindAll_of_length_ne, fun hlength => ⟨⟨?_, exists_bindAll hlength⟩, ?_, fun e => ⟨?_, ?_⟩⟩,
    fun _ _ _ => exists_bindAt_of_isTextual⟩
  · rintro ⟨ps, hps⟩ i type v htype hv
    obtain ⟨p, -, hp⟩ := (bindAll_eq_ok_iff.1 hps).2.2 i type v htype hv
    exact ⟨p, hp⟩
  · intro ps hps
    obtain ⟨-, hps, hall⟩ := bindAll_eq_ok_iff.1 hps
    refine ⟨hps, fun i type v htype hv => ?_⟩
    obtain ⟨p, hpi, hp⟩ := hall i type v htype hv
    exact ⟨p, hpi, hp, form_of_bindAt hp⟩
  · intro h
    obtain ⟨i, type, v, htype, hv, he, hbefore⟩ := (bindAll_eq_error_iff hlength).1 h
    exact ⟨i, type, v, htype, hv, he, coercion_of_bindAt he, hbefore⟩
  · rintro ⟨i, type, v, htype, hv, he, -, hbefore⟩
    exact (bindAll_eq_error_iff hlength).2 ⟨i, type, v, htype, hv, he, hbefore⟩

/-- A truth value for an integer, null for an address and a text for a date: one that names no day is a misfit at the
third position, and one that names a day is bound as a date. -/
theorem bindAll_positions_leapDay :
    let types : List SqlType := [.smallInt, .other "inet", .date]
    let values (day : String) : List Value := [.bool true, .null, .text day]
    bindAll types [] = .error (.countMismatch 3 0) ∧
      (∃ reason, bindAll types (values "soon") = .error (.coercion 3 reason)) ∧
      ∃ ps p, bindAll types (values "2024-02-29") = .ok ps ∧ ps[2]? = some p ∧ p.Suits .date := by
  intro types values
  obtain ⟨hlength, -, -⟩ := bindAll_positions types []
  obtain ⟨-, hsoon, -⟩ := bindAll_positions types (values "soon")
  obtain ⟨-, hday, -⟩ := bindAll_positions types (values "2024-02-29")
  have hbefore : ∀ j < 2, ∀ type v, types[j]? = some type → (values "soon")[j]? = some v →
      ∃ p, bindAt (j + 1) type v = .ok p := by
    intro j hj type v htype hv
    obtain rfl | rfl : j = 0 ∨ j = 1 := by omega
    · cases htype
      cases hv
      exact ⟨_, rfl⟩
    · cases htype
      cases hv
      exact ⟨_, rfl⟩
  have hfails : bindAt 3 .date (.text "soon") = .error (.coercion 3 "soon is not a timestamp") := rfl
  obtain ⟨ps, hps⟩ : ∃ ps, bindAll types (values "2024-02-29") = .ok ps := ⟨_, rfl⟩
  obtain ⟨p, hp, -, -, hsuits⟩ := ((hday rfl).2.1 ps hps).2 2 .date _ rfl rfl
  exact ⟨hlength (by decide), ⟨_, ((hsoon rfl).2.2 _).2 ⟨2, .date, _, rfl, rfl, hfails, ⟨_, rfl⟩, hbefore⟩⟩,
    ps, p, hps, hp, hsuits nofun⟩

end TypedSql
