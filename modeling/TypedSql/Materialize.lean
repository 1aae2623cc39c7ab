import TypedSql.Error
import TypedSql.Record
import TypedSql.SqlType
import TypedSql.Text.CamelCase

/-!
# Records of rows

* `ValueKind`, `coerce`: the kind of value that a column holds, and a value brought to it.
* `ColumnMeta`: the name and the declared type of a column.
* `Reader`: how the cells of a row are read.
* `Materializer.run`: the records of rows, at most as many as the limit, and what an observer sees.
-/

namespace TypedSql

/-! ## Kinds of values -/

/-- The kind of value that a column is read as. -/
inductive ValueKind where
  | int
  | float
  | bool
  | timestamp
  | text
deriving DecidableEq

/-- The kind of a declared type; types without a treatment of their own are read as text. -/
def ValueKind.of (type : SqlType) : ValueKind :=
  if type.isFloat then float
  else if type.isInteger then int
  else if type.isTemporal then timestamp
  else if type = .boolean then bool
  else text

/-- A value brought to a kind; what does not fit becomes text. -/
def coerce (kind : ValueKind) (v : Value) : Value :=
  match kind, v with
  | _, .null => .null
  | .int, .int n => .int n
  | .int, .float x =>
    match x.toInt? with
    | some n => .int (Signed.clamp n)
    | none => .text (Value.float x).display
  | .int, .bool b => .int (.ofBool b)
  | .float, .float x => .float x
  | .float, .int n => .float (Binary.ofInt .double n.val)
  | .bool, .bool b => .bool b
  | .bool, .int n => .bool (n.val != 0)
  | .timestamp, .timestamp t => .timestamp t
  | .timestamp, .int n =>
    match Timestamp.ofEpochMillis? n.val with
    | some t => .timestamp t
    | none => .text (intText n.val)
  | _, v => .text v.display

/-! ## Rows -/

/-- The name and the declared type of a column. -/
structure ColumnMeta where
  name : String
  type : SqlType
deriving DecidableEq

/-- How the cell of a row at an index, in a given column, is read. -/
abbrev Reader (Row : Type) := Row → Nat → ColumnMeta → Except Error Value

/-- A row of values in memory: each is brought to the kind of its column, and missing ones are null. -/
def readValues : Reader (List Value) := fun row index column =>
  .ok (coerce (.of column.type) (row.getD index .null))

/-- The fields of a row from an index on, named by their columns. -/
def fieldsFrom {Row : Type} (read : Reader Row) (row : Row) (index : Nat) :
    List ColumnMeta → Except Error (List (String × Value))
  | [] => .ok []
  | column :: rest => do
    let v ← read row index column
    let fields ← fieldsFrom read row (index + 1) rest
    return (Text.camelCase column.name, v) :: fields

def recordOf {Row : Type} (read : Reader Row) (columns : List ColumnMeta) (row : Row) : Except Error Record :=
  (fieldsFrom read row 0 columns).map Record.mk

/-! ## Materializing -/

/-- How many rows are made into records; without a limit, all. -/
structure Materializer where
  limit : Option Nat := none
deriving DecidableEq

namespace Materializer

/-- A limit on the rows; zero or less lifts it. -/
def withLimit (n : Int) : Materializer :=
  ⟨if 0 < n then some n.toNat else none⟩

def rows {Row : Type} (m : Materializer) (rows : List Row) : List Row :=
  match m.limit with
  | some n => rows.take n
  | none => rows

/-- The records of rows up to the first that fails, and its error. -/
def readAll {Row : Type} (read : Reader Row) (columns : List ColumnMeta) :
    List Row → List Record × Option Error
  | [] => ([], none)
  | row :: rest =>
    match recordOf read columns row with
    | .error e => ([], some e)
    | .ok record =>
      let (records, error) := readAll read columns rest
      (record :: records, error)

/-- The records of rows, or the first error; and the records that an observer sees, each with its number, counted from
one. -/
def run {Row : Type} (m : Materializer) (read : Reader Row) (columns : List ColumnMeta) (rows : List Row) :
    Except Error (List Record) × List (Nat × Record) :=
  let (records, error) := readAll read columns (m.rows rows)
  let seen := (List.range' 1 records.length).zip records
  match error with
  | some e => (.error e, seen)
  | none => (.ok records, seen)

/-- The records of rows, or the first error. -/
def records {Row : Type} (m : Materializer) (read : Reader Row) (columns : List ColumnMeta) (rows : List Row) :
    Except Error (List Record) :=
  (m.run read columns rows).1

end Materializer

end TypedSql
