import TypedSql.Materialize
import TypedSql.Outcome
import TypedSql.Text.Split
import TypedSql.Wire.Decoding

/-!
# Servers

* `Server`: what a server answers when it is asked to connect, to prepare a text and to execute it.
* `Description.cells`: the cells of the values of a statement, if all of them fit.
* `Description.outcome`: what the answer of a server means.
-/

namespace TypedSql

/-- The bytes of a value, or none for null. -/
abbrev Cell := Option (List UInt8)

/-- Why a server does not answer: an error with its code, an answer that cannot be read, or a connection that ends. -/
inductive Failure where
  | error (code message : String)
  | garbled
  | dropped
deriving DecidableEq

/-- A failure in a few words. -/
def Failure.summary : Failure → String
  | error _ _ => "db error"
  | garbled => "error parsing response from server"
  | dropped => "connection closed"

def Failure.toError (f : Failure) : Error :=
  match f with
  | error code message => .database (code ++ ": " ++ message)
  | garbled => .database f.summary
  | dropped => .connection f.summary

/-- What a server says about a prepared text: the types of its placeholders, and the names and types of the columns that
it yields. -/
structure Description where
  parameters : List String
  columns : List (String × String)
deriving DecidableEq

/-- What a server answers to an execution: rows, and the words that sum it up. -/
structure Answer where
  rows : List (List Cell)
  tag : String
deriving DecidableEq

/-- A server: why it lets no one connect, if so, what it says about a text, and what it answers when that is executed. -/
structure Server where
  refusal : Option Failure
  prepare : String → Except Failure Description
  execute : String → List Cell → Except Failure Answer

namespace Description

def types (d : Description) : List SqlType :=
  d.parameters.map SqlType.ofServer

/-- The names and declared types of the columns. -/
def columnMetas (d : Description) : List ColumnMeta :=
  d.columns.map fun (name, type) => ⟨name, .ofServer type⟩

/-- The cells of values. All of them are bound before the first is encoded. -/
def cells (d : Description) (values : List Value) : Except Error (List Cell) := do
  let ps ← bindAll d.types values
  match Wire.encodeAll d.parameters ps with
  | .ok cells => return cells
  | .error index => throw (.database ("error serializing parameter " ++ Nat.repr index))

/-- How a row of cells is read. -/
def reader (d : Description) : Reader (List Cell) := fun row index _ =>
  match Wire.readCell? ((d.columns.map Prod.snd).getD index "") (row.getD index none) with
  | some v => .ok v
  | none => .error (.database ("error deserializing column " ++ Nat.repr index))

end Description

/-- The number of changed rows: the last word of a tag, if it is an unsigned integer of sixty-four bits. -/
def affectedOfTag (tag : String) : Nat :=
  let last := ((Text.splitOn ' ' tag.toList).getLast?).getD []
  ((readUnsigned? last).filter (· < 2 ^ 64)).getD 0

/-- What an answer means: records if there are columns, and else the number of changed rows. -/
def Description.outcome (d : Description) (m : Materializer) (a : Answer) : Except Error Outcome :=
  if d.columns.isEmpty then .ok (.count (affectedOfTag a.tag))
  else (m.records d.reader d.columnMetas a.rows).map .rows

namespace Server

/-- A server that lets no one connect. -/
def unreachable : Server where
  refusal := some .dropped
  prepare _ := .error .dropped
  execute _ _ := .error .dropped

end Server

end TypedSql
