import TypedSql.Proofs.Parameter.Binding
import TypedSql.Proofs.Wire.Cell

/-!
# Parameters that are read back

* `Parameter.Means` : the value that a parameter stands for;
* `Parameter.IsExact` : no not-a-number, and a time that bytes have room for;
* `Wire.exists_readBack` : what is bound to a plain type has bytes, and a column of this type reads them as the value
  that the parameter stands for.
-/

namespace TypedSql

namespace Parameter

/-- The value that a parameter stands for: a date is its midnight, and a time of day is on the first day of 1970. -/
inductive Means : Parameter → Value → Prop where
  | null (type : SqlType) : Means (.null type) .null
  | smallInt (n : Signed 16) (m : Signed 64) : m.val = n.val → Means (.smallInt n) (.int m)
  | integer (n : Signed 32) (m : Signed 64) : m.val = n.val → Means (.integer n) (.int m)
  | bigInt (n : Signed 64) : Means (.bigInt n) (.int n)
  | real (x : Single) (y : Double) : x.SameNumber y → Means (.real x) (.float y)
  | double (x : Double) : Means (.double x) (.float x)
  | bool (b : Bool) : Means (.bool b) (.bool b)
  | date (d : Date) : Means (.date d) (.timestamp ⟨d, .midnight⟩)
  | time (c : Clock) : Means (.time c) (.timestamp ⟨.epoch, c⟩)
  | timestamp (t : Timestamp) : Means (.timestamp t) (.timestamp t)
  | timestampTz (t : Timestamp) : Means (.timestampTz t) (.timestamp t)
  | text (s : String) : Means (.text s) (.text s)

/-- A number, or a time of whole microseconds outside leap seconds. -/
def IsExact : Parameter → Prop
  | real x => x.isNaN = false
  | double x => x.isNaN = false
  | time c => Wire.IsWhole c
  | timestamp t | timestampTz t => Wire.IsWhole t.clock
  | _ => True

end Parameter

namespace Wire
variable {type : String}

open Parameter (convert)

/-- The types whose bytes are read as the value that was bound. Not among them are numbers of any length, which lose a
negative zero, identifiers and JSON, which are written in another way than they are given, and types without a treatment
of their own. -/
def plainTypes : List String :=
  ["int2", "int4", "int8", "float4", "float8", "bool", "date", "time", "timestamp", "timestamptz", "bpchar", "varchar",
    "text", "name"]

theorem ofServer_plain (h : type ∈ plainTypes) :
    SqlType.ofServer type ≠ .numeric ∧ (SqlType.ofServer type).isOther = false := by
  revert type
  decide

theorem not_mem_shaped (h : type ∈ plainTypes) : type ∉ shaped := by
  revert type
  decide

/-- A parameter has a cell, which is read as the value that the parameter stands for. -/
def ReadsBack (type : String) (p : Parameter) : Prop :=
  ∃ cell x, encode type p = some cell ∧ readCell? type cell = some x ∧ p.Means x

theorem readsBack_null (t : SqlType) : ReadsBack type (.null t) :=
  ⟨none, .null, rfl, rfl, .null t⟩

theorem ReadsBack.of_decode {p : Parameter} {w : List UInt8} {x : Value} (hbytes : bytesOf? type p = some w)
    (hread : decode? type w = some x) (hmeans : p.Means x) : ReadsBack type p :=
  ⟨some w, x, encode_eq_iff.2 hbytes, hread, hmeans⟩

/-- Integers that are narrower than those of values, of which `p` is a parameter. -/
theorem readsBack_narrow {bits count : Nat} {p : Parameter} {n : Signed bits}
    (hwidth : 2 * 2 ^ (bits - 1) = 256 ^ count) (hbits : bits ≤ 64)
    (hdecode : ∀ bs, decode? type bs = (signed? count bs).bind Value.ofInt?)
    (hbytes : bytesOf? type p = some (signedBytes count n.val))
    (hmeans : ∀ m : Signed 64, m.val = n.val → p.Means (.int m)) : ReadsBack type p := by
  obtain ⟨m, hm, hread⟩ := exists_decode?_signedBytes hwidth hbits hdecode n
  exact .of_decode hbytes hread (hmeans m hm)

theorem readsBack_time (h : SqlType.ofServer type = .time) {c : Clock} (hc : IsWhole c) :
    ReadsBack type (.time c) := by
  refine .of_decode rfl ?_ (.time c)
  rw [decode?_time h hc.1, clockOfMicros_clockMicros hc]

/-- Timestamps of either type, which `p` is a parameter of. -/
theorem readsBack_timestamp {p : Parameter} {t : Timestamp}
    (hdecode : ∀ bs, decode? type bs = ((signed? 8 bs).bind timestampOfMicros?).map .timestamp)
    (hbytes : bytesOf? type p = some (signedBytes 8 (timestampMicros t))) (ht : IsWhole t.clock)
    (hmeans : p.Means (.timestamp t)) : ReadsBack type p := by
  refine .of_decode hbytes ?_ hmeans
  rw [decode?_timestamp hdecode (isCounted_of_isWhole ht), timestampOfMicros?_timestampMicros ht]
  rfl

theorem readsBack_text (htype : type ∈ plainTypes) (s : String)
    (hdecode : ∀ bs, decode? type bs = (readText? type bs).map .text) : ReadsBack type (.text s) := by
  have hplain := not_mem_shaped htype
  exact .of_decode (textBytes?_plain hplain s) (decode?_utf8 hdecode hplain s) (.text s)

theorem readsBack_of_convert (htype : type ∈ plainTypes) {v : Value} {p : Parameter}
    (hconvert : convert (SqlType.ofServer type) v = .ok p) (hp : p.IsExact) : ReadsBack type p := by
  obtain ⟨hnumeric, hother⟩ := ofServer_plain htype
  cases h : SqlType.ofServer type <;> rw [h] at hconvert hnumeric hother
  case smallInt =>
    obtain ⟨n, -, rfl⟩ := exists_of_map_eq_ok hconvert
    exact readsBack_narrow (by decide) (by decide) (decode?_smallInt h) rfl (.smallInt n)
  case integer =>
    obtain ⟨n, -, rfl⟩ := exists_of_map_eq_ok hconvert
    exact readsBack_narrow (by decide) (by decide) (decode?_integer h) rfl (.integer n)
  case bigInt =>
    obtain ⟨n, -, rfl⟩ := exists_of_map_eq_ok hconvert
    exact .of_decode rfl (decode?_bigInt h n) (.bigInt n)
  case real =>
    obtain ⟨x, -, rfl⟩ := exists_of_map_eq_ok hconvert
    exact .of_decode rfl (decode?_real h _) (.real _ _ (Binary.sameNumber_widen hp))
  case double =>
    obtain ⟨x, -, rfl⟩ := exists_of_map_eq_ok hconvert
    exact .of_decode rfl (decode?_double h x) (.double x)
  case numeric => exact absurd rfl hnumeric
  case boolean =>
    obtain ⟨b, -, rfl⟩ := exists_of_map_eq_ok hconvert
    exact .of_decode rfl (decode?_boolean h b) (.bool b)
  case date =>
    obtain ⟨t, -, rfl⟩ := exists_of_map_eq_ok hconvert
    exact .of_decode rfl (decode?_date h t.date) (.date t.date)
  case time =>
    obtain ⟨t, -, rfl⟩ := exists_of_map_eq_ok hconvert
    exact readsBack_time h hp
  case timestamp =>
    obtain ⟨t, -, rfl⟩ := exists_of_map_eq_ok hconvert
    exact readsBack_timestamp (decode?_instant (.inl h)) rfl hp (.timestamp t)
  case timestampTz =>
    obtain ⟨t, -, rfl⟩ := exists_of_map_eq_ok hconvert
    exact readsBack_timestamp (decode?_instant (.inr h)) rfl hp (.timestampTz t)
  case char | varChar | text =>
    obtain rfl := Except.ok.inj hconvert
    exact readsBack_text htype _ (decode?_written (.inl (by rw [h]; decide)))
  case other name => cases hother

/-- What is bound to a plain type, at any position, has a cell, and a column of this type reads it as the value that the
parameter stands for. -/
theorem exists_readBack (htype : type ∈ plainTypes) {position : Nat} {v : Value} {p : Parameter}
    (hbind : bindAt position (SqlType.ofServer type) v = .ok p) (hp : p.IsExact) :
    ∃ cell x, encode type p = some cell ∧ readCell? type cell = some x ∧ p.Means x := by
  rcases null_or_convert_of_bindAt hbind with rfl | hconvert
  · exact readsBack_null _
  · exact readsBack_of_convert htype hconvert hp

/-- A microsecond before midnight in the year 44 before the year 1, bound from a text. -/
theorem exists_readBack_beforeYearZero :
    let t : Timestamp := ⟨⟨-43, 3, 14, by decide⟩, ⟨23, 59, 59, 999999000, by decide⟩⟩
    bindAt 2 (SqlType.ofServer "timestamptz") (.text "-0043-03-14 23:59:59.999999") = .ok (.timestampTz t) ∧
      ∃ cell, encode "timestamptz" (.timestampTz t) = some cell ∧
        readCell? "timestamptz" cell = some (.timestamp t) := by
  intro t
  have hbind : bindAt 2 (SqlType.ofServer "timestamptz") (.text "-0043-03-14 23:59:59.999999") =
      .ok (.timestampTz t) := by decide +kernel
  obtain ⟨cell, x, hcell, hread, hmeans⟩ :=
    exists_readBack (by decide) hbind (by decide : IsWhole t.clock)
  cases hmeans
  exact ⟨hbind, cell, hcell, hread⟩

end Wire

end TypedSql
