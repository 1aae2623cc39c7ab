import TypedSql.Materialize
import TypedSql.Proofs.Traversal

/-!
# Records of rows

* `Record.IsRead` : a record of what is read in a row, a field for each column;
* `FailsAt` : the first column in which a row cannot be read;
* `recordOf_eq_ok_iff`, `recordOf_eq_error_iff` : a row has such a record, or it fails in such a column;
* `recordOf_congr` : rows that are read alike have the same record;
* `Materializer.records_eq_mapM` : the records are those of the rows within the limit, or the error is that of the first
  row that has none;
* `Materializer.rows_withLimit` : a positive limit keeps so many rows from the first on, and any other keeps all.
-/

namespace TypedSql
variable {Row : Type} {read : Reader Row} {columns : List ColumnMeta}

/-! ## One row -/

/-- A record with one field for each column, in their order: the name of the column in camel case, and the value that is
read there. -/
structure Record.IsRead (read : Reader Row) (columns : List ColumnMeta) (row : Row) (r : Record) : Prop where
  length_eq : r.fields.length = columns.length
  field : ∀ (i : Nat) column, columns[i]? = some column →
    ∃ v, read row i column = .ok v ∧ r.fields[i]? = some (Text.camelCase column.name, v)

/-- A row that can be read in the columns before an index, and in the column there cannot. -/
structure FailsAt (read : Reader Row) (columns : List ColumnMeta) (row : Row) (i : Nat) (e : Error) : Prop where
  error : ∃ column, columns[i]? = some column ∧ read row i column = .error e
  before : ∀ j < i, ∀ column, columns[j]? = some column → ∃ v, read row j column = .ok v

theorem fieldsFrom_eq_mapM (row : Row) (index : Nat) : fieldsFrom read row index columns =
    (columns.zipIdx index).mapM fun c => (read row c.2 c.1).map fun v => (Text.camelCase c.1.name, v) := by
  induction columns generalizing index with
  | nil => rfl
  | cons column columns ih =>
    rw [fieldsFrom, List.zipIdx_cons, List.mapM_cons, ih]
    cases read row index column <;> rfl

theorem getElem?_zipIdx_iff {i : Nat} {c : ColumnMeta × Nat} :
    columns.zipIdx[i]? = some c ↔ columns[i]? = some c.1 ∧ c.2 = i := by
  obtain ⟨column, index⟩ := c
  rw [List.getElem?_zipIdx, Option.map_eq_some_iff]
  simp only [Nat.zero_add, Prod.mk.injEq]
  constructor
  · rintro ⟨a, ha, rfl, rfl⟩
    exact ⟨ha, rfl⟩
  · rintro ⟨ha, rfl⟩
    exact ⟨column, ha, rfl, rfl⟩

theorem recordOf_eq_ok_iff {row : Row} {r : Record} :
    recordOf read columns row = .ok r ↔ r.IsRead read columns row := by
  have hmap : recordOf read columns row = .ok r ↔ fieldsFrom read row 0 columns = .ok r.fields := by
    rw [recordOf]
    cases fieldsFrom read row 0 columns with
    | error e => exact ⟨nofun, nofun⟩
    | ok fields => exact ⟨fun h => by cases h; rfl, fun h => by cases h; rfl⟩
  rw [hmap, fieldsFrom_eq_mapM, mapM_eq_ok_iff, List.length_zipIdx]
  constructor
  · rintro ⟨hlength, hall⟩
    refine ⟨hlength, fun i column hcolumn => ?_⟩
    obtain ⟨field, hfield, hread⟩ := hall i (column, i) (getElem?_zipIdx_iff.2 ⟨hcolumn, rfl⟩)
    obtain ⟨v, hv, rfl⟩ := exists_of_map_eq_ok hread
    exact ⟨v, hv, hfield⟩
  · rintro ⟨hlength, hall⟩
    refine ⟨hlength, fun i c hc => ?_⟩
    obtain ⟨hcolumn, hi⟩ := getElem?_zipIdx_iff.1 hc
    obtain ⟨v, hv, hfield⟩ := hall i c.1 hcolumn
    rw [hi, hv]
    exact ⟨_, hfield, rfl⟩

theorem recordOf_eq_error_iff {row : Row} {e : Error} :
    recordOf read columns row = .error e ↔ ∃ i, FailsAt read columns row i e := by
  rw [recordOf, map_eq_error_iff, fieldsFrom_eq_mapM, mapM_eq_error_iff]
  constructor
  · rintro ⟨i, c, hc, he, hbefore⟩
    obtain ⟨hcolumn, hi⟩ := getElem?_zipIdx_iff.1 hc
    rw [hi] at he
    refine ⟨i, ⟨c.1, hcolumn, map_eq_error_iff.1 he⟩, fun j hj column hcolumn => ?_⟩
    obtain ⟨field, hread⟩ := hbefore j hj (column, j) (getElem?_zipIdx_iff.2 ⟨hcolumn, rfl⟩)
    obtain ⟨v, hv, -⟩ := exists_of_map_eq_ok hread
    exact ⟨v, hv⟩
  · rintro ⟨i, ⟨column, hcolumn, he⟩, hbefore⟩
    refine ⟨i, (column, i), getElem?_zipIdx_iff.2 ⟨hcolumn, rfl⟩, map_eq_error_iff.2 he, fun j hj c hc => ?_⟩
    obtain ⟨hcolumn, hi⟩ := getElem?_zipIdx_iff.1 hc
    obtain ⟨v, hv⟩ := hbefore j hj c.1 hcolumn
    rw [hi, hv]
    exact ⟨_, rfl⟩

/-- A record depends only on what is read in the columns. -/
theorem recordOf_congr {Row' : Type} {read' : Reader Row'} {row : Row} {row' : Row'}
    (h : ∀ (i : Nat) column, columns[i]? = some column → read row i column = read' row' i column) :
    recordOf read columns row = recordOf read' columns row' := by
  cases hrecord : recordOf read' columns row' with
  | ok r =>
    have hr := recordOf_eq_ok_iff.1 hrecord
    exact recordOf_eq_ok_iff.2 ⟨hr.length_eq, fun i column hc => h i column hc ▸ hr.field i column hc⟩
  | error e =>
    obtain ⟨i, ⟨column, hcolumn, he⟩, hbefore⟩ := recordOf_eq_error_iff.1 hrecord
    exact recordOf_eq_error_iff.2 ⟨i, ⟨column, hcolumn, h i column hcolumn ▸ he⟩, fun j hj column hc =>
      h j column hc ▸ hbefore j hj column hc⟩

/-! ## All rows -/

namespace Materializer

theorem mapM_recordOf_eq (rows : List Row) : rows.mapM (recordOf read columns) =
    match (readAll read columns rows).2 with
    | some e => .error e
    | none => .ok (readAll read columns rows).1 := by
  induction rows with
  | nil => rfl
  | cons row rows ih =>
    rw [readAll]
    cases hrow : recordOf read columns row with
    | error e => rw [mapM_cons_of_error hrow]
    | ok record =>
      rw [mapM_cons_of_ok hrow, ih]
      obtain ⟨records, error⟩ := readAll read columns rows
      cases error <;> rfl

theorem records_eq_mapM (m : Materializer) (rows : List Row) :
    m.records read columns rows = (m.rows rows).mapM (recordOf read columns) := by
  rw [mapM_recordOf_eq, records, run]
  obtain ⟨records, error⟩ := readAll read columns (m.rows rows)
  cases error <;> rfl

theorem rows_withLimit (limit : Int) (rows : List Row) :
    (withLimit limit).rows rows = if 0 < limit then rows.take limit.toNat else rows := by
  unfold withLimit
  split <;> rfl

end Materializer

end TypedSql
