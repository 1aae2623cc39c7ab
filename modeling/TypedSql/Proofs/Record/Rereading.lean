import TypedSql.Proofs.Materialize
import TypedSql.Proofs.Parameter.Binding
import TypedSql.Proofs.Record.Coercion
import TypedSql.Proofs.Wire.Cell
import TypedSql.Server

/-!
# Records read again

* `Value.IsSettled` : a value that is kept as it is when it is brought to a kind (`coerce_of_isSettled`), which is what
  every value becomes (`isSettled_coerce`);
* `Wire.kind?_of_decode?` : the bytes of a cell are read as a value of the kind of their type;
* `Description.readerAs` : how a row of cells is read in columns of any types, each of which asks for its own;
* `Description.recordOf_reader` : which is how it is always read in columns of its own types;
* `recordOf_values`, `Materializer.records_values` : where only settled values are read, the values of a record have
  that record again;
* `Description.records_reread` : as the rows of a server have in memory.
-/

namespace TypedSql

/-! ## Settled values -/

/-- Null, a value of a kind, or a text, which every kind admits. -/
def Value.IsSettled (kind : ValueKind) (v : Value) : Prop :=
  v = .null ∨ v.kind? = some kind ∨ v.kind? = some .text

section
variable {kind : ValueKind} {v : Value}

theorem coerce_of_isSettled (h : v.IsSettled kind) : coerce kind v = v := by
  cases v with
  | null | text s => cases kind <;> rfl
  | int n | float x | bool b | timestamp t =>
    obtain h | h | h := h
    · cases h
    · cases h
      rfl
    · cases h

theorem isSettled_coerce (kind : ValueKind) (v : Value) : (coerce kind v).IsSettled kind := by
  fun_cases coerce kind v with
  | case1 => exact .inl rfl
  -- a float that is not whole, milliseconds beyond the calendar, and what fits no kind
  | case4 | case12 | case13 => exact .inr (.inr rfl)
  | _ => exact .inr (.inl rfl)

theorem coerce_coerce (kind : ValueKind) (v : Value) : coerce kind (coerce kind v) = coerce kind v :=
  coerce_of_isSettled (isSettled_coerce kind v)

end

/-! ## Values of cells -/

namespace Wire

theorem kind?_of_map {α : Type} {r : Option α} {f : α → Value} {kind : ValueKind} {v : Value}
    (hf : ∀ a, (f a).kind? = some kind) (h : r.map f = some v) : v.kind? = some kind := by
  obtain ⟨a, -, rfl⟩ := Option.map_eq_some_iff.1 h
  exact hf a

theorem kind?_of_ofInt? {r : Option Int} {v : Value} (h : r.bind Value.ofInt? = some v) : v.kind? = some .int := by
  obtain ⟨n, -, hn⟩ := Option.bind_eq_some_iff.1 h
  exact kind?_of_map (fun _ => rfl) hn

theorem kind?_of_decode? {type : String} {bs : List UInt8} {v : Value} (h : decode? type bs = some v) :
    v.kind? = some (.of (SqlType.ofServer type)) := by
  unfold decode? at h
  cases hs : SqlType.ofServer type with
  | smallInt | integer | bigInt =>
    rw [hs] at h
    exact kind?_of_ofInt? h
  | date =>
    rw [hs] at h
    obtain ⟨n, -, h⟩ := Option.bind_eq_some_iff.1 h
    obtain ⟨d, -, h⟩ := Option.bind_eq_some_iff.1 h
    cases h
    rfl
  | boolean =>
    rw [hs] at h
    dsimp only at h
    split at h <;> cases h
    rfl
  | _ =>
    rw [hs] at h
    exact kind?_of_map (fun _ => rfl) h

theorem decode?_of_isTextual {type : String} (h : (SqlType.ofServer type).isTextual = true) (bs : List UInt8) :
    decode? type bs = (readText? type bs).map .text := by
  refine decode?_written ?_ bs
  cases hs : SqlType.ofServer type with
  | char | varChar | text => exact .inl (by decide)
  | other name => exact .inr rfl
  | _ =>
    rw [hs] at h
    cases h

/-- The text of a cell of any type, null without bytes. -/
def readTextCell? (type : String) : Cell → Option Value
  | none => some .null
  | some bs => (readText? type bs).map .text

/-- The value of a cell in a column that asks for a type: a column of texts takes the text of any cell, and another the
cells of its own type only. -/
def readAs? (asked : SqlType) (type : String) (cell : Cell) : Option Value :=
  if asked.isTextual then readTextCell? type cell
  else if SqlType.ofServer type = asked then readCell? type cell
  else none

theorem kind_of_isTextual {type : SqlType} (h : type.isTextual = true) : ValueKind.of type = .text := by
  cases type with
  | char | varChar | text | other name => rfl
  | _ => cases h

theorem null_or_kind?_of_readAs? {asked : SqlType} {type : String} {cell : Cell} {v : Value}
    (h : readAs? asked type cell = some v) : v = .null ∨ v.kind? = some (.of asked) := by
  unfold readAs? at h
  split at h
  · next htextual =>
    cases cell with
    | none =>
      cases h
      exact .inl rfl
    | some bs =>
      rw [kind_of_isTextual htextual]
      exact .inr (kind?_of_map (fun _ => rfl) h)
  · split at h
    · next htype =>
      cases cell with
      | none =>
        cases h
        exact .inl rfl
      | some bs => exact .inr (htype ▸ kind?_of_decode? h)
    · cases h

theorem readAs?_ofServer (type : String) (cell : Cell) : readAs? (.ofServer type) type cell = readCell? type cell := by
  unfold readAs?
  split
  · next htextual =>
    cases cell with
    | none => rfl
    | some bs => exact (decode?_of_isTextual htextual bs).symm
  · exact if_pos rfl

end Wire

/-! ## Rows of a server -/

/-- The values of a record, in column order. -/
def Record.values (r : Record) : List Value :=
  r.fields.map Prod.snd

namespace Description
variable {d : Description} {columns : List ColumnMeta}

/-- How a row of cells is read in columns of any types. -/
def readerAs (d : Description) : Reader (List Cell) := fun row index column =>
  match d.columns[index]? with
  | none => .error (.database ("invalid column `" ++ Nat.repr index ++ "`"))
  | some (_, type) =>
    match Wire.readAs? column.type type (row.getD index none) with
    | some v => .ok v
    | none => .error (.database ("error deserializing column " ++ Nat.repr index))

theorem null_or_kind?_of_readerAs {row : List Cell} {index : Nat} {column : ColumnMeta} {v : Value}
    (h : d.readerAs row index column = .ok v) : v = .null ∨ v.kind? = some (.of column.type) := by
  unfold readerAs at h
  split at h
  · cases h
  · split at h
    · next hread =>
      cases h
      exact Wire.null_or_kind?_of_readAs? hread
    · cases h

theorem readerAs_eq_reader {index : Nat} {column : ColumnMeta} (h : d.columnMetas[index]? = some column)
    (row : List Cell) : d.readerAs row index column = d.reader row index column := by
  rw [columnMetas, List.getElem?_map, Option.map_eq_some_iff] at h
  obtain ⟨⟨name, type⟩, hcolumn, rfl⟩ := h
  have htype : (d.columns.map Prod.snd).getD index "" = type := by
    rw [List.getD_eq_getElem?_getD, List.getElem?_map, hcolumn]
    rfl
  rw [readerAs, reader, hcolumn, htype]
  dsimp only
  cases hcell : Wire.readCell? type (row.getD index none) <;> simp only [Wire.readAs?_ofServer, hcell]

theorem recordOf_reader (d : Description) (row : List Cell) :
    recordOf d.reader d.columnMetas row = recordOf d.readerAs d.columnMetas row :=
  recordOf_congr fun _ _ hcolumn => (readerAs_eq_reader hcolumn row).symm

end Description

/-! ## Reading again -/

section
variable {Row : Type} {read : Reader Row} {columns : List ColumnMeta}

/-- Where only settled values are read, the values of a record have that record again. -/
theorem recordOf_values (hread : ∀ row index column v, read row index column = .ok v → v.IsSettled (.of column.type))
    {row : Row} {r : Record} (h : r.IsRead read columns row) : recordOf readValues columns r.values = .ok r := by
  rw [← recordOf_eq_ok_iff.2 h]
  refine recordOf_congr fun i column hcolumn => ?_
  obtain ⟨v, hv, hfield⟩ := h.field i column hcolumn
  have hvalue : r.values[i]? = some v := by
    rw [Record.values, List.getElem?_map, hfield]
    rfl
  rw [hv, readValues, List.getD_eq_getElem?_getD, hvalue, Option.getD_some,
    coerce_of_isSettled (hread row i column v hv)]

/-- As many records as a limit leaves are within it. -/
theorem Materializer.rows_eq_self (m : Materializer) {rows : List Row} {Row' : Type} {rows' : List Row'}
    (h : rows'.length = (m.rows rows).length) : m.rows rows' = rows' := by
  unfold Materializer.rows at h ⊢
  cases hlimit : m.limit with
  | none => rfl
  | some n =>
    rw [hlimit] at h
    dsimp only at h
    rw [List.length_take] at h
    exact List.take_of_length_le (by omega)

theorem Materializer.records_values (m : Materializer)
    (hread : ∀ row index column v, read row index column = .ok v → v.IsSettled (.of column.type)) {rows : List Row}
    {records : List Record} (h : m.records read columns rows = .ok records) :
    m.records readValues columns (records.map Record.values) = .ok records := by
  rw [records_eq_mapM] at h ⊢
  obtain ⟨hlength, hall⟩ := mapM_eq_ok_iff.1 h
  rw [m.rows_eq_self ((List.length_map _).trans hlength)]
  refine mapM_eq_ok_iff.2 ⟨(List.length_map _).symm, fun i values hi => ?_⟩
  rw [List.getElem?_map, Option.map_eq_some_iff] at hi
  obtain ⟨r, hr, rfl⟩ := hi
  obtain ⟨row, hrow⟩ : ∃ row, (m.rows rows)[i]? = some row := by
    have hi := (List.getElem?_eq_some_iff.1 hr).1
    exact ⟨_, List.getElem?_eq_getElem (hlength ▸ hi)⟩
  obtain ⟨r', hr', hrecord⟩ := hall i row hrow
  cases hr.symm.trans hr'
  exact ⟨r, hr, recordOf_values hread (recordOf_eq_ok_iff.1 hrecord)⟩

end

namespace Description

/-- What a row of a server gives in columns of any types is null or of their kinds, and so the values of its record have
that record again, as those of all records of an answer do. The columns may be those of the server; and a value that has
been brought to a kind stays as it is. -/
theorem records_reread (d : Description) (columns : List ColumnMeta) :
    (∀ row r, recordOf d.readerAs columns row = .ok r →
      (∀ (i : Nat) column, columns[i]? = some column → ∃ v, d.readerAs row i column = .ok v ∧
        r.fields[i]? = some (Text.camelCase column.name, v) ∧ (v = .null ∨ v.kind? = some (.of column.type)) ∧
        coerce (.of column.type) v = v) ∧
      recordOf readValues columns r.values = .ok r) ∧
    (∀ (m : Materializer) rows records, m.records d.readerAs columns rows = .ok records →
      m.records readValues columns (records.map Record.values) = .ok records) ∧
    (∀ row, recordOf d.reader d.columnMetas row = recordOf d.readerAs d.columnMetas row) ∧
    ∀ kind v, coerce kind (coerce kind v) = coerce kind v := by
  have hsettled : ∀ row index column v, d.readerAs row index column = .ok v → v.IsSettled (.of column.type) :=
    fun row index column v h => (null_or_kind?_of_readerAs h).imp_right .inl
  refine ⟨fun row r h => ?_, fun m rows records => m.records_values hsettled, d.recordOf_reader, coerce_coerce⟩
  have hr := recordOf_eq_ok_iff.1 h
  refine ⟨fun i column hcolumn => ?_, recordOf_values hsettled hr⟩
  obtain ⟨v, hv, hfield⟩ := hr.field i column hcolumn
  exact ⟨v, hv, hfield, null_or_kind?_of_readerAs hv, coerce_of_isSettled (hsettled row i column v hv)⟩

/-- A time of day, a decimal, an identifier and null, each asked for as what it is, and an integer asked for as text. -/
theorem records_reread_payment :
    let d : Description := ⟨[], [("PAID_AT", "time"), ("AMOUNT", "numeric"), ("PAYER", "uuid"), ("REFUNDS", "int4"),
      ("CODE", "int4")]⟩
    let columns : List ColumnMeta := [⟨"PAID_AT", .time⟩, ⟨"AMOUNT", .numeric⟩, ⟨"PAYER", .other "uuid"⟩,
      ⟨"REFUNDS", .integer⟩, ⟨"CODE", .varChar⟩]
    let row : List Cell := [some [0, 0, 0, 0x0a, 0x7a, 0x35, 0x82, 0x00],
      some [0, 2, 0, 0, 0, 0, 0, 2, 0, 12, 0x13, 0x88],
      some [0x67, 0xe5, 0x50, 0x44, 0x10, 0xb1, 0x42, 0x6f, 0x92, 0x47, 0xbb, 0x68, 0x0e, 0x5f, 0xe0, 0xc8], none,
      some [0x41, 0x42, 0x43, 0x44]]
    let r : Record := ⟨[("paidAt", .timestamp ⟨.epoch, .ofSecondOfDay 45000 0⟩), ("amount", .text "12.50"),
      ("payer", .text "67e55044-10b1-426f-9247-bb680e5fe0c8"), ("refunds", .null), ("code", .text "ABCD")]⟩
    recordOf d.readerAs columns row = .ok r ∧ recordOf readValues columns r.values = .ok r := by
  intro d columns row r
  have hread : recordOf d.readerAs columns row = .ok r := by decide +kernel
  exact ⟨hread, ((records_reread d columns).1 row r hread).2⟩

end Description

end TypedSql
