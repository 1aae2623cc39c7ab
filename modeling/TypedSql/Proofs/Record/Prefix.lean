import Mathlib.Data.List.Forall2
import TypedSql.Proofs.Materialize

/-!
# The rows that are read

* `Materializer.readRows` : records made one after the other in any monad, each shown to an observer before the limit is
  tested; `readRows_limit` : to stop at the limit is to take up only so many rows.
* `Act`, `Materializer.noted` : the cells that are read and the records that are shown, in their order.
* `Materializer.run_loop_cons`, `Materializer.run_loop_append`, `Materializer.run_loop_error` : what is done for a row
  that has a record, for all such rows that come first, and for the first that has none.
* `Materializer.run_withLimit` : the records are those of the rows within the limit, and nothing is done beyond the last
  of these or beyond the first failure.
-/

namespace TypedSql.Materializer

/-! ## Row by row -/

section
variable {M : Type → Type} [Monad M] {Row : Type}

/-- The fields of a row from an index on, by a reader that may do other things too. -/
def readFields (read : Row → Nat → ColumnMeta → ExceptT Error M Value) (row : Row) (index : Nat) :
    List ColumnMeta → ExceptT Error M (List (String × Value))
  | [] => return []
  | column :: rest => do
    let v ← read row index column
    let fields ← readFields read row (index + 1) rest
    return (Text.camelCase column.name, v) :: fields

/-- The records of rows, one row after the other, when so many are done. Each is shown to an observer as soon as it is
made, with its number; and once there are as many as the limit, no other row is taken up. -/
def readRows (m : Materializer) (read : Row → Nat → ColumnMeta → ExceptT Error M Value)
    (observe : Nat → Record → M Unit) (columns : List ColumnMeta) (done : Nat) :
    List Row → ExceptT Error M (List Record)
  | [] => return []
  | row :: rest => do
    let fields ← readFields read row 0 columns
    observe (done + 1) ⟨fields⟩
    if m.limit = some (done + 1) then return [⟨fields⟩]
    else
      let records ← readRows m read observe columns (done + 1) rest
      return ⟨fields⟩ :: records

variable [LawfulMonad M] {read : Row → Nat → ColumnMeta → ExceptT Error M Value}
  {observe : Nat → Record → M Unit} {columns : List ColumnMeta}

/-- To stop at a limit is to take up only so many rows. -/
theorem readRows_limit {n done : Nat} (h : done < n) (rows : List Row) :
    readRows ⟨some n⟩ read observe columns done rows =
      readRows ⟨none⟩ read observe columns done (rows.take (n - done)) := by
  induction rows generalizing done with
  | nil =>
    rw [List.take_nil]
    rfl
  | cons row rows ih =>
    obtain ⟨k, hk⟩ : ∃ k, n - done = k + 1 := ⟨n - done - 1, by omega⟩
    rw [hk, List.take_succ_cons, readRows, readRows]
    by_cases hlast : n = done + 1
    · obtain rfl : k = 0 := by omega
      simp [hlast, readRows]
    · have hrest : n - (done + 1) = k := by omega
      simp only [Option.some.injEq, hlast, ↓reduceIte, ih (show done + 1 < n by omega), hrest, reduceCtorEq]

end

/-! ## What is done -/

/-- What is done while records are made: a cell is read, in a row counted from one and a column counted from zero, or a
record is shown to the observer with its number. -/
inductive Act where
  | cell (row column : Nat)
  | record (number : Nat) (r : Record)
deriving DecidableEq

def Act.note (a : Act) : StateM (List Act) Unit :=
  modify (· ++ [a])

variable {Row : Type} {read : Reader Row} {columns : List ColumnMeta}

/-- A reader of numbered rows that notes what it reads. -/
def noting (read : Reader Row) (row : Row × Nat) (index : Nat) (column : ColumnMeta) :
    ExceptT Error (StateM (List Act)) Value := do
  (Act.cell row.2 index).note
  ExceptT.mk (pure (read row.1 index column))

/-- The records of rows, or the first error, and all that is done. -/
def noted (m : Materializer) (read : Reader Row) (columns : List ColumnMeta) (rows : List Row) :
    Except Error (List Record) × List Act :=
  (m.readRows (noting read) (fun n r => (Act.record n r).note) columns 0 (rows.zipIdx 1)).run.run []

/-- The cells of a row that are read up to so many of its columns. -/
def cellsRead (number columns : Nat) : List Act :=
  (List.range columns).map (.cell number)

/-- All that is done for rows that have these records, when so many are done: for each row, all its cells are read and
its record is shown. -/
def actsFrom (columns : List ColumnMeta) (done : Nat) : List Record → List Act
  | [] => []
  | r :: rest => cellsRead (done + 1) columns.length ++ .record (done + 1) r :: actsFrom columns (done + 1) rest

section
variable {α β σ : Type} {x : ExceptT Error (StateM σ) α} {s t : σ}

theorem run_bind_ok {a : α} (h : x.run.run s = (.ok a, t)) (f : α → ExceptT Error (StateM σ) β) :
    (x >>= f).run.run s = (f a).run.run t := by
  rw [ExceptT.run_bind, StateT.run_bind, h]
  rfl

theorem run_bind_error {e : Error} (h : x.run.run s = (.error e, t)) (f : α → ExceptT Error (StateM σ) β) :
    (x >>= f).run.run s = (.error e, t) := by
  rw [ExceptT.run_bind, StateT.run_bind, h]
  rfl

theorem run_bind_pure (f : α → β) : (x >>= fun a => pure (f a)).run.run s =
    ((x.run.run s).1.map f, (x.run.run s).2) := by
  cases hx : x.run.run s with
  | mk result t =>
    cases result with
    | error e =>
      rw [run_bind_error hx]
      rfl
    | ok a =>
      rw [run_bind_ok hx]
      rfl

end

theorem run_noting (row : Row × Nat) (index : Nat) (column : ColumnMeta) (acts : List Act) :
    (noting read row index column).run.run acts = (read row.1 index column, acts ++ [.cell row.2 index]) := rfl

theorem run_note (a : Act) (acts : List Act) :
    (liftM a.note : ExceptT Error (StateM (List Act)) Unit).run.run acts = (.ok (), acts ++ [a]) := rfl

theorem run_readFields_ok {row : Row} {number index : Nat} {fields : List (String × Value)} {acts : List Act}
    (h : fieldsFrom read row index columns = .ok fields) :
    (readFields (noting read) (row, number) index columns).run.run acts =
      (.ok fields, acts ++ (List.range' index columns.length).map (.cell number)) := by
  induction columns generalizing index fields acts with
  | nil =>
    cases h
    rw [List.length_nil, List.range'_zero, List.map_nil, List.append_nil]
    rfl
  | cons column columns ih =>
    obtain ⟨v, hv, h⟩ := bind_eq_ok h
    obtain ⟨rest, hrest, h⟩ := bind_eq_ok h
    cases h
    rw [readFields, run_bind_ok (by rw [run_noting, hv]), run_bind_ok (ih hrest), List.append_assoc]
    rfl

theorem run_readFields_error {row : Row} {number index i : Nat} {column : ColumnMeta} {e : Error} {acts : List Act}
    (hcolumn : columns[i]? = some column) (he : read row (index + i) column = .error e)
    (hbefore : ∀ j < i, ∀ column, columns[j]? = some column → ∃ v, read row (index + j) column = .ok v) :
    (readFields (noting read) (row, number) index columns).run.run acts =
      (.error e, acts ++ (List.range' index (i + 1)).map (.cell number)) := by
  induction columns generalizing index i acts with
  | nil => cases hcolumn
  | cons first columns ih =>
    rw [readFields]
    cases i with
    | zero =>
      cases hcolumn
      rw [run_bind_error (by rw [run_noting, show read row index column = .error e from he])]
      rfl
    | succ i =>
      obtain ⟨v, hv⟩ : ∃ v, read row index first = .ok v := hbefore 0 (Nat.succ_pos i) first rfl
      have hrest := @ih (index + 1) i (acts ++ [.cell number index]) hcolumn (by rwa [Nat.add_assoc, Nat.add_comm 1])
        fun j hj column hc => by
          rw [Nat.add_assoc, Nat.add_comm 1]
          exact hbefore (j + 1) (Nat.succ_lt_succ hj) column hc
      rw [run_bind_ok (by rw [run_noting, hv]), run_bind_error hrest, List.append_assoc]
      rfl

/-- The loop over rows when so many are done, with all that it does noted. -/
abbrev loop (read : Reader Row) (columns : List ColumnMeta) (done : Nat) (rows : List Row) :
    ExceptT Error (StateM (List Act)) (List Record) :=
  readRows ⟨none⟩ (noting read) (fun n r => (Act.record n r).note) columns done (rows.zipIdx (done + 1))

/-- One row that has a record: its cells are read, the record is shown, and the loop goes on with the next number. -/
theorem run_loop_cons {row : Row} {rows : List Row} {r : Record} {done : Nat} {acts acts' : List Act}
    {result : Except Error (List Record)} (h : r.IsRead read columns row)
    (hrest : (loop read columns (done + 1) rows).run.run
      (acts ++ cellsRead (done + 1) columns.length ++ [.record (done + 1) r]) = (result, acts')) :
    (loop read columns done (row :: rows)).run.run acts = (result.map (r :: ·), acts') := by
  obtain ⟨fields, hfields, rfl⟩ := exists_of_map_eq_ok (recordOf_eq_ok_iff.2 h)
  rw [cellsRead, List.range_eq_range'] at hrest
  rw [loop, List.zipIdx_cons, readRows, run_bind_ok (run_readFields_ok hfields), run_bind_ok (run_note _ _),
    if_neg nofun, run_bind_pure, hrest]

/-- Rows that have records come first, and what the loop does for the others is all that is left. -/
theorem run_loop_append {before after : List Row} {records : List Record} {done : Nat} {acts acts' : List Act}
    {result : Except Error (List Record)} (h : List.Forall₂ (Record.IsRead read columns) before records)
    (hafter : (loop read columns (done + before.length) after).run.run (acts ++ actsFrom columns done records) =
      (result, acts')) :
    (loop read columns done (before ++ after)).run.run acts = (result.map (records ++ ·), acts') := by
  induction h generalizing done acts with
  | nil =>
    rw [actsFrom, List.append_nil] at hafter
    exact hafter.trans (Prod.ext (congrFun Except.map_id _).symm rfl)
  | @cons row r rows records hr _ ih =>
    rw [actsFrom, List.append_cons, ← List.append_assoc, ← List.append_assoc, List.length_cons,
      Nat.add_comm rows.length, ← Nat.add_assoc] at hafter
    rw [List.cons_append, run_loop_cons hr (ih hafter)]
    cases result <;> rfl

theorem run_loop_error {row : Row} {done i : Nat} {e : Error} (h : FailsAt read columns row i e) (rows : List Row)
    (acts : List Act) :
    (loop read columns done (row :: rows)).run.run acts = (.error e, acts ++ cellsRead (done + 1) (i + 1)) := by
  obtain ⟨⟨column, hcolumn, he⟩, hbefore⟩ := h
  rw [loop, List.zipIdx_cons, readRows, cellsRead, List.range_eq_range']
  refine run_bind_error (run_readFields_error hcolumn ?_ ?_) _
  · rwa [Nat.zero_add]
  · intro j hj column hcolumn
    rw [Nat.zero_add]
    exact hbefore j hj column hcolumn

theorem take_zipIdx {α : Type} (as : List α) (n k : Nat) : (as.zipIdx k).take n = (as.take n).zipIdx k := by
  refine List.ext_getElem? fun i => ?_
  rw [List.getElem?_zipIdx, List.getElem?_take, List.getElem?_take, List.getElem?_zipIdx]
  split <;> rfl

theorem noted_withLimit (limit : Int) (rows : List Row) : (withLimit limit).noted read columns rows =
    (loop read columns 0 (if 0 < limit then rows.take limit.toNat else rows)).run.run [] := by
  rw [withLimit, noted]
  split
  · rw [readRows_limit (by omega), Nat.sub_zero, take_zipIdx]
  · rfl

/-! ## The records -/

theorem exists_records {rows : List Row} (h : ∀ row ∈ rows, ∀ i e, ¬ FailsAt read columns row i e) :
    ∃ records, List.Forall₂ (Record.IsRead read columns) rows records := by
  induction rows with
  | nil => exact ⟨[], .nil⟩
  | cons row rows ih =>
    obtain ⟨records, hrecords⟩ := ih fun row hrow => h row (List.mem_cons_of_mem _ hrow)
    cases hrow : recordOf read columns row with
    | ok r => exact ⟨r :: records, .cons (recordOf_eq_ok_iff.1 hrow) hrecords⟩
    | error e =>
      obtain ⟨i, hi⟩ := recordOf_eq_error_iff.1 hrow
      exact absurd hi (h row List.mem_cons_self i e)

theorem readAll_append {before : List Row} {records : List Record}
    (h : List.Forall₂ (Record.IsRead read columns) before records) (after : List Row) :
    readAll read columns (before ++ after) =
      (records ++ (readAll read columns after).1, (readAll read columns after).2) := by
  induction h with
  | nil => rfl
  | cons hr _ ih =>
    rw [List.cons_append, readAll, recordOf_eq_ok_iff.2 hr, ih]
    rfl

theorem readAll_error {row : Row} {i : Nat} {e : Error} (h : FailsAt read columns row i e) (rows : List Row) :
    readAll read columns (row :: rows) = ([], some e) := by
  rw [readAll, recordOf_eq_error_iff.2 ⟨i, h⟩]

/-- With `within` for the rows within the limit: if all of them can be read, each has its record, all are shown in their
order with the numbers from one on, and no cell of another row is read. Otherwise the first that cannot be read gives
its error, only the records of the rows before it are shown, and nothing is read past the column that fails. -/
theorem run_withLimit (read : Reader Row) (columns : List ColumnMeta) (rows : List Row) (limit : Int) :
    let m := withLimit limit
    let within := if 0 < limit then rows.take limit.toNat else rows
    let seen records := (List.range' 1 records.length).zip records
    ((∀ row ∈ within, ∀ i e, ¬ FailsAt read columns row i e) →
      ∃ records, List.Forall₂ (Record.IsRead read columns) within records ∧
        m.run read columns rows = (.ok records, seen records) ∧
        m.noted read columns rows = (.ok records, actsFrom columns 0 records)) ∧
    ∀ before row after i e, within = before ++ row :: after →
      (∀ row ∈ before, ∀ i e, ¬ FailsAt read columns row i e) → FailsAt read columns row i e →
      ∃ records, List.Forall₂ (Record.IsRead read columns) before records ∧
        m.run read columns rows = (.error e, seen records) ∧
        m.noted read columns rows =
          (.error e, actsFrom columns 0 records ++ cellsRead (before.length + 1) (i + 1)) := by
  intro m within seen
  have hrows : m.rows rows = within := rows_withLimit limit rows
  have hnoted : m.noted read columns rows = (loop read columns 0 within).run.run [] := noted_withLimit limit rows
  constructor
  · intro hall
    obtain ⟨records, hrecords⟩ := exists_records hall
    refine ⟨records, hrecords, ?_, ?_⟩
    · have hread : readAll read columns within = (records, none) := by
        rw [← List.append_nil within, readAll_append hrecords, readAll, List.append_nil]
      rw [run, hrows, hread]
    · rw [hnoted, ← List.append_nil within, run_loop_append hrecords rfl]
      exact Prod.ext (congrArg Except.ok (List.append_nil records)) rfl
  · intro before row after i e hwithin hbefore hrow
    obtain ⟨records, hrecords⟩ := exists_records hbefore
    refine ⟨records, hrecords, ?_, ?_⟩
    · rw [run, hrows, hwithin, readAll_append hrecords, readAll_error hrow, List.append_nil]
    · rw [hnoted, hwithin, run_loop_append hrecords (run_loop_error hrow after _), List.nil_append, Nat.zero_add]
      rfl

/-- The third row cannot be read. A limit of two stops before it, and without a limit it ends the whole. -/
theorem run_withLimit_thirdFails :
    let read : Reader (Except Error Value) := fun row _ _ => row
    let columns : List ColumnMeta := [⟨"NOTE", .text⟩]
    let rows : List (Except Error Value) := [.ok (.bool true), .ok .null, .error .missingField, .ok .null]
    (∃ records, List.Forall₂ (Record.IsRead read columns) (rows.take 2) records ∧
      (withLimit 2).run read columns rows = (.ok records, (List.range' 1 records.length).zip records) ∧
      (withLimit 2).noted read columns rows = (.ok records, actsFrom columns 0 records)) ∧
    ∃ records, List.Forall₂ (Record.IsRead read columns) (rows.take 2) records ∧
      (withLimit 0).run read columns rows = (.error .missingField, (List.range' 1 records.length).zip records) ∧
      (withLimit 0).noted read columns rows =
        (.error .missingField, actsFrom columns 0 records ++ [.cell 3 0]) := by
  intro read columns rows
  have hread : ∀ row ∈ rows.take 2, ∀ i e, ¬ FailsAt read columns row i e := by
    rintro row hrow i e ⟨⟨column, -, he⟩, -⟩
    have hne : row ≠ .error e := by
      rintro rfl
      simp [rows] at hrow
    exact hne he
  have hfails : FailsAt read columns (.error .missingField) 0 .missingField := ⟨⟨_, rfl, rfl⟩, nofun⟩
  exact ⟨(run_withLimit read columns rows 2).1 hread,
    (run_withLimit read columns rows 0).2 (rows.take 2) _ [.ok .null] 0 _ rfl hread hfails⟩

end TypedSql.Materializer
