import TypedSql.Proofs.Number.Binary
import TypedSql.Proofs.Text.Utf8
import TypedSql.Proofs.Wire.Integer
import TypedSql.Proofs.Wire.Temporal
import TypedSql.Wire.Decoding

/-!
# What the bytes of a parameter are read as

One statement for each kind of type: `exists_decode?_signedBytes` for integers, `decode?_real` and `decode?_double` for
floats, `decode?_boolean`, `decode?_date`, `decode?_time` and `decode?_timestamp` for dates and times, `decode?_utf8` for
texts of types that are not `shaped`. They hold of a server type through the SQL type that it stands for.
`decode?_smallInt`, `decode?_integer`, `decode?_numeric`, `decode?_instant` and `decode?_written` say in which way the
bytes of their types are read.
-/

namespace TypedSql.Wire
variable {type : String} {w : List UInt8}

theorem encode_eq_iff {p : Parameter} : encode type p = some (some w) ↔ bytesOf? type p = some w := by
  have hmap : ∀ r : Option (List UInt8), r.map some = some (some w) ↔ r = some w := by
    intro r
    cases r <;> simp
  unfold encode
  split
  · simp [bytesOf?]
  · exact hmap _

/-! ## Readings by type -/

theorem decode?_smallInt (h : SqlType.ofServer type = .smallInt) (bs : List UInt8) :
    decode? type bs = (signed? 2 bs).bind Value.ofInt? := by
  unfold decode?
  rw [h]

theorem decode?_integer (h : SqlType.ofServer type = .integer) (bs : List UInt8) :
    decode? type bs = (signed? 4 bs).bind Value.ofInt? := by
  unfold decode?
  rw [h]

theorem decode?_instant (h : SqlType.ofServer type = .timestamp ∨ SqlType.ofServer type = .timestampTz)
    (bs : List UInt8) : decode? type bs = ((signed? 8 bs).bind timestampOfMicros?).map .timestamp := by
  unfold decode?
  rcases h with h | h <;> rw [h]

theorem decode?_numeric (h : SqlType.ofServer type = .numeric) (bs : List UInt8) :
    decode? type bs = (readNumeric? bs).map fun d => .text d.text := by
  unfold decode?
  rw [h]

/-- Types of texts, and types without a treatment of their own. -/
theorem decode?_written (h : SqlType.ofServer type ∈ [.char, .varChar, .text] ∨ (SqlType.ofServer type).isOther = true)
    (bs : List UInt8) : decode? type bs = (readText? type bs).map .text := by
  unfold decode?
  cases hs : SqlType.ofServer type with
  | char | varChar | text | other name => rfl
  | _ => simp [hs, SqlType.isOther] at h

/-! ## Numbers -/

theorem exists_wide {bits : Nat} (hbits : bits ≤ 64) (n : Signed bits) : ∃ m : Signed 64, m.val = n.val := by
  have hpow : (2 : Int) ^ (bits - 1) ≤ 2 ^ (64 - 1) := by
    exact_mod_cast Nat.pow_le_pow_right (by decide : 0 < 2) (Nat.sub_le_sub_right hbits 1)
  have hlow := n.low_le
  have hhigh := n.lt_high
  exact ⟨⟨n.val, by omega, by omega⟩, rfl⟩

theorem ofInt?_val (n : Signed 64) : Value.ofInt? n.val = some (.int n) := by
  rw [Value.ofInt?, Signed.ofInt?_eq_some_iff.2 rfl]
  rfl

/-- Integers of a type that is no wider than those of values. -/
theorem exists_decode?_signedBytes {bits count : Nat} (hwidth : 2 * 2 ^ (bits - 1) = 256 ^ count) (hbits : bits ≤ 64)
    (hdecode : ∀ bs, decode? type bs = (signed? count bs).bind Value.ofInt?) (n : Signed bits) :
    ∃ m : Signed 64, m.val = n.val ∧ decode? type (signedBytes count n.val) = some (.int m) := by
  obtain ⟨m, hm⟩ := exists_wide hbits n
  refine ⟨m, hm, ?_⟩
  rw [hdecode, signed?_signedBytes_val hwidth, Option.bind_some, ← hm, ofInt?_val]

theorem decode?_bigInt (h : SqlType.ofServer type = .bigInt) (n : Signed 64) :
    decode? type (signedBytes 8 n.val) = some (.int n) := by
  unfold decode?
  rw [h]
  dsimp only
  rw [signed?_signedBytes_val (by decide), Option.bind_some, ofInt?_val]

theorem readFloat?_bytes {f : Format} {count : Nat} (hcount : 2 ^ (1 + f.exponentBits + f.fractionBits) = 256 ^ count)
    (x : Binary f) : readFloat? f count (bytes count x.toBits) = some x := by
  have hx := x.toBits_lt
  rw [hcount] at hx
  rw [readFloat?, if_pos (length_bytes _ _), nat_bytes, Nat.mod_eq_of_lt hx, Binary.ofBits_toBits]

theorem decode?_real (h : SqlType.ofServer type = .real) (x : Single) :
    decode? type (bytes 4 x.toBits) = some (.float x.widen) := by
  unfold decode?
  rw [h]
  dsimp only
  rw [readFloat?_bytes (by decide)]
  rfl

theorem decode?_double (h : SqlType.ofServer type = .double) (x : Double) :
    decode? type (bytes 8 x.toBits) = some (.float x) := by
  unfold decode?
  rw [h]
  dsimp only
  rw [readFloat?_bytes (by decide)]
  rfl

theorem decode?_boolean (h : SqlType.ofServer type = .boolean) (b : Bool) :
    decode? type [if b then 1 else 0] = some (.bool b) := by
  unfold decode?
  rw [h]
  cases b <;> rfl

/-! ## Dates and times -/

theorem decode?_date (h : SqlType.ofServer type = .date) (d : Date) :
    decode? type (signedBytes 4 (d.dayNumber - epochDays)) = some (.timestamp ⟨d, .midnight⟩) := by
  unfold decode?
  rw [h]
  dsimp only
  rw [signed?_dateBytes]
  simp only [Option.bind_eq_bind, Option.bind_some, ofDayNumber?_dateBytes]
  rfl

theorem decode?_time (h : SqlType.ofServer type = .time) {c : Clock} (hc : c.isLeap = false) :
    decode? type (bytes 8 (clockMicros c)) = some (.timestamp ⟨.epoch, clockOfMicros (clockMicros c)⟩) := by
  unfold decode?
  rw [h]
  dsimp only
  rw [signed?_timeBytes hc]
  rfl

/-- Timestamps of either type. -/
theorem decode?_timestamp (hdecode : ∀ bs, decode? type bs = ((signed? 8 bs).bind timestampOfMicros?).map .timestamp)
    {t : Timestamp} (ht : IsCounted t) :
    decode? type (signedBytes 8 (timestampMicros t)) = (timestampOfMicros? (timestampMicros t)).map .timestamp := by
  rw [hdecode, signed?_timestampBytes ht, Option.bind_some]

/-! ## Texts -/

/-- The types whose texts are written in another way than as their characters alone. -/
def shaped : List String :=
  "uuid" :: "json" :: "jsonb" :: versioned

theorem not_mem_shaped_iff :
    type ∉ shaped ↔ type ≠ "uuid" ∧ type ≠ "json" ∧ type ≠ "jsonb" ∧ type ∉ versioned := by
  simp only [shaped, List.mem_cons, not_or, ne_eq]

theorem textBytes?_plain (htype : type ∉ shaped) (s : String) : textBytes? type s = some (Text.utf8 s) := by
  obtain ⟨huuid, hjson, hjsonb, hversioned⟩ := not_mem_shaped_iff.1 htype
  rw [textBytes?, if_neg huuid, if_neg hjson, if_neg hjsonb, if_neg hversioned]

theorem decode?_utf8 (hdecode : ∀ bs, decode? type bs = (readText? type bs).map .text) (htype : type ∉ shaped)
    (s : String) : decode? type (Text.utf8 s) = some (.text s) := by
  obtain ⟨huuid, hjson, hjsonb, -⟩ := not_mem_shaped_iff.1 htype
  rw [hdecode]
  unfold readText?
  rw [if_neg huuid, if_neg hjson, if_neg hjsonb, Text.Utf8.lossy_utf8]
  rfl

end TypedSql.Wire
