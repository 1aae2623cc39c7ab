import TypedSql.Proofs.Number.Decimal
import TypedSql.Proofs.Parameter.Temporal
import TypedSql.Proofs.Record.Merge
import TypedSql.Proofs.Wire.Cell
import TypedSql.Proofs.Wire.Numeric
import TypedSql.Proofs.Wire.Uuid

/-!
# Cells that are written back

* `Parameter.IsOrdinary` : no infinity, no not-a-number, and no leap second that bytes have no room for;
* `Wire.WritesBack` : bytes that are read as a value which, behind its JSON form, is bound to these bytes again;
* `Wire.exists_writtenBack` : the bytes of a parameter are read, merged as part of a record, and bound to these bytes
  again.
-/

namespace TypedSql

/-! ## Parameters -/

/-- A finite number, or a time without a leap second. A timestamp may have one, though not on the last day, where it
would be counted into a day that the calendar does not have. -/
def Parameter.IsOrdinary : Parameter → Prop
  | real x => x.isFinite = true
  | double x => x.isFinite = true
  | time c => c.isLeap = false
  | timestamp t | timestampTz t => Wire.IsCounted t
  | _ => True

namespace Wire
variable {type : String} {w : List UInt8}

open Parameter (convert orElse toDecimal toNarrow toTimestamp toTimestamp_text)

theorem convert_of_bindAt {position : Nat} {t : SqlType} {v : Value} {p : Parameter} (h : bindAt position t v = .ok p)
    (hp : bytesOf? type p = some w) : convert t v = .ok p := by
  rcases null_or_convert_of_bindAt h with rfl | h
  · cases hp
  · exact h

/-! ## Bytes that are read and bound again -/

/-- The bytes of a cell are read as a value that, behind its JSON form, is bound to a parameter of these bytes. -/
def WritesBack (type : String) (w : List UInt8) : Prop :=
  ∃ x q, readCell? type (some w) = some x ∧ (∀ position, bindAt position (SqlType.ofServer type) x.normal = .ok q) ∧
    encode type q = some (some w)

theorem WritesBack.of_convert {x : Value} {q : Parameter} (hread : decode? type w = some x)
    (hx : x.normal.isNull = false) (hconvert : convert (SqlType.ofServer type) x.normal = .ok q)
    (hbytes : bytesOf? type q = some w) : WritesBack type w :=
  ⟨x, q, hread, fun _ => bindAt_of_convert hx hconvert, encode_eq_iff.2 hbytes⟩

/-! ### Numbers -/

/-- Integers of a type that is narrower than those of values, which `make` makes parameters of. -/
theorem writesBack_narrow {bits count : Nat} {t : SqlType} {make : Signed bits → Parameter}
    (hwidth : 2 * 2 ^ (bits - 1) = 256 ^ count) (hbits : bits ≤ 64)
    (hdecode : ∀ bs, decode? type bs = (signed? count bs).bind Value.ofInt?)
    (hconvert : ∀ v, convert (SqlType.ofServer type) v = (toNarrow bits t v).map make)
    (hbytes : ∀ n, bytesOf? type (make n) = some (signedBytes count n.val)) (n : Signed bits) :
    WritesBack type (signedBytes count n.val) := by
  obtain ⟨m, hm, hread⟩ := exists_decode?_signedBytes hwidth hbits hdecode n
  refine WritesBack.of_convert hread rfl ?_ (hbytes n)
  rw [hconvert]
  show (toNarrow bits t (.int m)).map make = _
  rw [Parameter.toNarrow_eq_ok_iff.2 ⟨m, rfl, hm.symm⟩]
  rfl

theorem writesBack_bigInt (h : SqlType.ofServer type = .bigInt) (n : Signed 64) :
    WritesBack type (signedBytes 8 n.val) := by
  refine WritesBack.of_convert (q := .bigInt n) (decode?_bigInt h n) rfl ?_ rfl
  rw [h]
  rfl

theorem normal_float {x : Double} (hx : x.isFinite = true) : (Value.float x).normal = .float x :=
  if_pos hx

theorem writesBack_real (h : SqlType.ofServer type = .real) {x : Single} (hx : x.isFinite = true) :
    WritesBack type (bytes 4 x.toBits) := by
  obtain ⟨hwiden, hnarrow⟩ := Binary.narrow_widen hx
  have hnormal := normal_float hwiden
  refine WritesBack.of_convert (q := .real x) (decode?_real h x) ?_ ?_ rfl
  · rw [hnormal]
    rfl
  · rw [h, hnormal]
    show Except.ok (Parameter.real x.widen.narrow) = _
    rw [hnarrow]

theorem writesBack_double (h : SqlType.ofServer type = .double) {x : Double} (hx : x.isFinite = true) :
    WritesBack type (bytes 8 x.toBits) := by
  have hnormal := normal_float hx
  refine WritesBack.of_convert (q := .double x) (decode?_double h x) ?_ ?_ rfl
  · rw [hnormal]
    rfl
  · rw [h, hnormal]
    rfl

theorem normal_text (s : String) : (Value.text s).normal = .text s := rfl

theorem numericBytes_of_eq_zero {d : Decimal} (hd : d.mantissa = 0) : numericBytes d = bytes 8 0 :=
  if_pos hd

theorem toDecimal_text (d : Decimal) :
    ∃ e : Decimal, toDecimal (.text d.text) = .ok e ∧ numericBytes e = numericBytes d := by
  have hread := d.read?_text
  by_cases hd : d.mantissa = 0
  · refine ⟨⟨false, 0, d.scale, by decide, d.scale_le⟩, ?_, ?_⟩
    · unfold toDecimal
      dsimp only
      rw [hread, hd, bne_self_eq_false, Bool.and_false, Decimal.ofParts?, dif_pos ⟨by decide, d.scale_le⟩]
      rfl
    · rw [numericBytes_of_eq_zero hd]
      exact numericBytes_of_eq_zero rfl
  · refine ⟨d, ?_, rfl⟩
    unfold toDecimal
    dsimp only
    rw [hread, bne_iff_ne.2 hd, Bool.and_true, Decimal.ofParts?, dif_pos ⟨d.mantissa_lt, d.scale_le⟩]
    rfl

theorem writesBack_numeric (h : SqlType.ofServer type = .numeric) (d : Decimal) : WritesBack type (numericBytes d) := by
  obtain ⟨e, hread, hbytes⟩ := toDecimal_text (if d.mantissa = 0 then .zero false else d)
  refine WritesBack.of_convert (q := .numeric e) (x := .text (if d.mantissa = 0 then .zero false else d : Decimal).text)
    ?_ rfl ?_ ?_
  · rw [decode?_numeric h, readNumeric?_numericBytes]
    rfl
  · rw [h, normal_text, convert, hread]
    rfl
  · show some (numericBytes e) = _
    rw [hbytes]
    split
    · next hd =>
      rw [numericBytes_of_eq_zero hd]
      exact congrArg some (numericBytes_of_eq_zero rfl)
    · rfl

theorem writesBack_boolean (h : SqlType.ofServer type = .boolean) (b : Bool) :
    WritesBack type [if b then 1 else 0] := by
  refine WritesBack.of_convert (q := .bool b) (decode?_boolean h b) rfl ?_ rfl
  rw [h]
  rfl

/-! ### Dates and times -/

theorem normal_timestamp (t : Timestamp) : (Value.timestamp t).normal = .text t.text := rfl

theorem writesBack_date (h : SqlType.ofServer type = .date) (d : Date) :
    WritesBack type (signedBytes 4 (d.dayNumber - epochDays)) := by
  refine WritesBack.of_convert (q := .date d) (decode?_date h d) rfl ?_ rfl
  rw [h, normal_timestamp, convert, toTimestamp_text]
  rfl

theorem writesBack_time (h : SqlType.ofServer type = .time) {c : Clock} (hc : c.isLeap = false) :
    WritesBack type (bytes 8 (clockMicros c)) := by
  refine WritesBack.of_convert (q := .time (clockOfMicros (clockMicros c))) (decode?_time h hc) rfl ?_ ?_
  · rw [h, normal_timestamp, convert, toTimestamp_text]
    rfl
  · show some (bytes 8 (clockMicros (clockOfMicros (clockMicros c)))) = _
    rw [clockMicros_clockOfMicros (clockMicros_lt hc)]

/-- Timestamps of either type, which `make` makes parameters of. -/
theorem writesBack_timestamp {make : Timestamp → Parameter}
    (hdecode : ∀ bs, decode? type bs = ((signed? 8 bs).bind timestampOfMicros?).map .timestamp)
    (hconvert : ∀ v, convert (SqlType.ofServer type) v = (toTimestamp v).map make)
    (hbytes : ∀ t, bytesOf? type (make t) = some (signedBytes 8 (timestampMicros t))) {t : Timestamp}
    (ht : IsCounted t) : WritesBack type (signedBytes 8 (timestampMicros t)) := by
  obtain ⟨u, hu, hmicros⟩ := exists_timestampOfMicros? ht
  refine WritesBack.of_convert (x := .timestamp u) (q := make u) ?_ rfl ?_ ?_
  · rw [decode?_timestamp hdecode ht, hu]
    rfl
  · rw [hconvert, normal_timestamp, toTimestamp_text]
    rfl
  · rw [hbytes, hmicros]

/-! ### Texts -/

theorem writesBack_text {s : String} (hdecode : ∀ bs, decode? type bs = (readText? type bs).map .text)
    (hconvert : ∀ v, convert (SqlType.ofServer type) v = .ok (.text v.display)) (hjson : type ≠ "json")
    (hjsonb : type ≠ "jsonb") (hversioned : type ∉ versioned) (hw : textBytes? type s = some w) :
    WritesBack type w := by
  by_cases huuid : type = "uuid"
  · rw [textBytes?, if_pos huuid] at hw
    obtain ⟨u, htext, hread⟩ := readUuid?_uuidText? (length_of_readUuid? hw)
    refine WritesBack.of_convert (x := .text u) (q := .text u) ?_ rfl (hconvert (.text u)) ?_
    · rw [hdecode]
      unfold readText?
      rw [if_pos huuid, htext]
      rfl
    · show textBytes? type u = some w
      rw [textBytes?, if_pos huuid, hread]
  · have hplain := not_mem_shaped_iff.2 ⟨huuid, hjson, hjsonb, hversioned⟩
    rw [textBytes?_plain hplain] at hw
    obtain rfl := Option.some.inj hw
    exact WritesBack.of_convert (q := .text s) (decode?_utf8 hdecode hplain s) rfl (hconvert (.text s))
      (textBytes?_plain hplain s)

/-! ## All types -/

/-- What is bound to a type other than the JSON types, and those with a version byte, is written back. -/
theorem writesBack_of_convert {v : Value} {p : Parameter} (hconvert : convert (SqlType.ofServer type) v = .ok p)
    (hbytes : bytesOf? type p = some w) (hp : p.IsOrdinary) (hjson : type ≠ "json") (hjsonb : type ≠ "jsonb")
    (hversioned : type ∉ versioned) : WritesBack type w := by
  cases h : SqlType.ofServer type <;> rw [h] at hconvert
  case smallInt =>
    obtain ⟨n, -, rfl⟩ := exists_of_map_eq_ok hconvert
    obtain rfl := Option.some.inj hbytes
    exact writesBack_narrow (by decide) (by decide) (decode?_smallInt h) (fun v => by rw [h]; rfl)
      (fun n => rfl) n
  case integer =>
    obtain ⟨n, -, rfl⟩ := exists_of_map_eq_ok hconvert
    obtain rfl := Option.some.inj hbytes
    exact writesBack_narrow (by decide) (by decide) (decode?_integer h) (fun v => by rw [h]; rfl)
      (fun n => rfl) n
  case bigInt =>
    obtain ⟨n, -, rfl⟩ := exists_of_map_eq_ok hconvert
    obtain rfl := Option.some.inj hbytes
    exact writesBack_bigInt h n
  case real =>
    obtain ⟨x, -, rfl⟩ := exists_of_map_eq_ok hconvert
    obtain rfl := Option.some.inj hbytes
    exact writesBack_real h hp
  case double =>
    obtain ⟨x, -, rfl⟩ := exists_of_map_eq_ok hconvert
    obtain rfl := Option.some.inj hbytes
    exact writesBack_double h hp
  case numeric =>
    obtain ⟨d, -, rfl⟩ := exists_of_map_eq_ok hconvert
    obtain rfl := Option.some.inj hbytes
    exact writesBack_numeric h d
  case boolean =>
    obtain ⟨b, -, rfl⟩ := exists_of_map_eq_ok hconvert
    obtain rfl := Option.some.inj hbytes
    exact writesBack_boolean h b
  case date =>
    obtain ⟨t, -, rfl⟩ := exists_of_map_eq_ok hconvert
    obtain rfl := Option.some.inj hbytes
    exact writesBack_date h t.date
  case time =>
    obtain ⟨t, -, rfl⟩ := exists_of_map_eq_ok hconvert
    obtain rfl := Option.some.inj hbytes
    exact writesBack_time h hp
  case timestamp =>
    obtain ⟨t, -, rfl⟩ := exists_of_map_eq_ok hconvert
    obtain rfl := Option.some.inj hbytes
    exact writesBack_timestamp (decode?_instant (.inl h)) (fun v => by rw [h]; rfl) (fun t => rfl) hp
  case timestampTz =>
    obtain ⟨t, -, rfl⟩ := exists_of_map_eq_ok hconvert
    obtain rfl := Option.some.inj hbytes
    exact writesBack_timestamp (decode?_instant (.inr h)) (fun v => by rw [h]; rfl) (fun t => rfl) hp
  case char | varChar | text =>
    obtain rfl := Except.ok.inj hconvert
    exact writesBack_text (decode?_written (.inl (by rw [h]; decide))) (fun v => by rw [h]; rfl) hjson hjsonb hversioned
      hbytes
  case other name =>
    obtain rfl := Except.ok.inj hconvert
    exact writesBack_text (decode?_written (.inr (by rw [h]; rfl))) (fun v => by rw [h]; rfl) hjson hjsonb hversioned
      hbytes

/-- What was bound to a type other than the two JSON types, and those whose version byte is read as a character, is read
from its bytes, put into a record, merged, and bound to these bytes again. The record may have other fields, but none of
the same name behind this one. -/
theorem exists_writtenBack (hjson : type ≠ "json") (hjsonb : type ≠ "jsonb") (hversioned : type ∉ versioned)
    {position : Nat} {v : Value} {p : Parameter} (hbind : bindAt position (SqlType.ofServer type) v = .ok p)
    (hencode : encode type p = some (some w)) (hp : p.IsOrdinary) :
    ∃ x, readCell? type (some w) = some x ∧
      ∀ (d : DataMap) (before after : List (String × Value)) (name : String) (filter : Option (List String)),
        name ∉ Pairs.names after → DataMap.allows filter name = true →
        ∃ merged y q, d.mergeSerialized (.record ⟨before ++ (name, x) :: after⟩) filter = .ok merged ∧
          merged.get? name = some y ∧ (∀ position, bindAt position (SqlType.ofServer type) y = .ok q) ∧
          encode type q = some (some w) := by
  have hbytes := encode_eq_iff.1 hencode
  obtain ⟨x, q, hread, hbound, hwritten⟩ :=
    writesBack_of_convert (convert_of_bindAt hbind hbytes) hbytes hp hjson hjsonb hversioned
  refine ⟨x, hread, fun d before after name filter hname hfilter => ?_⟩
  have hnames : name ∉ Pairs.names (after.map fun p => (p.1, p.2.normal)) := by
    rwa [Pairs.names, List.map_map]
  refine ⟨_, x.normal, q, d.mergeSerialized_record _ filter, ?_, hbound, hwritten⟩
  rw [List.map_append, List.map_cons]
  exact DataMap.get?_merge_last hfilter d _ _ hnames x.normal

/-- A price of two fraction digits, bound from a text with blanks around it and read beside another field. -/
theorem exists_writtenBack_price :
    bindAt 1 (SqlType.ofServer "numeric") (.text " 12.50 ") =
        .ok (.numeric ⟨false, 1250, 2, by decide, by decide⟩) ∧
      encode "numeric" (.numeric ⟨false, 1250, 2, by decide, by decide⟩) =
        some (some [0, 2, 0, 0, 0, 0, 0, 2, 0, 12, 0x13, 0x88]) ∧
      ∃ x, readCell? "numeric" (some [0, 2, 0, 0, 0, 0, 0, 2, 0, 12, 0x13, 0x88]) = some x ∧
        ∃ merged y q, DataMap.empty.mergeSerialized (.record ⟨[("sku", .text "a7"), ("price", x)]⟩) none = .ok merged ∧
          merged.get? "price" = some y ∧ bindAt 1 (SqlType.ofServer "numeric") y = .ok q ∧
          encode "numeric" q = some (some [0, 2, 0, 0, 0, 0, 0, 2, 0, 12, 0x13, 0x88]) := by
  have hbind : bindAt 1 (SqlType.ofServer "numeric") (.text " 12.50 ") =
      .ok (.numeric ⟨false, 1250, 2, by decide, by decide⟩) := by decide +kernel
  have hencode : encode "numeric" (.numeric ⟨false, 1250, 2, by decide, by decide⟩) =
      some (some [0, 2, 0, 0, 0, 0, 0, 2, 0, 12, 0x13, 0x88]) := by decide +kernel
  obtain ⟨x, hread, hmerge⟩ := exists_writtenBack (by decide) (by decide) (by decide) hbind hencode trivial
  obtain ⟨merged, y, q, hmerged, hy, hbound, hwritten⟩ :=
    hmerge .empty [("sku", .text "a7")] [] "price" none List.not_mem_nil rfl
  exact ⟨hbind, hencode, x, hread, merged, y, q, hmerged, hy, hbound 1, hwritten⟩

end Wire

end TypedSql
