import TypedSql.Log
import TypedSql.Outcome
import TypedSql.Registry
import TypedSql.Statement

/-!
# Running statements

* `Backend`: how the databases behind handles answer and close, and how events are told.
* `Backend.execute`, `Backend.executeOn`: a statement on the database that it names, and on a given one.
* `Backend.remove`, `Backend.closeAll`: handles that leave a registry are closed.
-/

namespace TypedSql

/-- How the databases behind handles answer and close, and how events are told, on some state. -/
structure Backend (σ : Type) where
  call : Handle → String → List Value → StateM σ (Except Error Outcome)
  close : Handle → StateM σ Unit
  tell : Event → StateM σ Unit

namespace Backend

variable {σ : Type}

/-- A text with its values on the database under a name. -/
def query (b : Backend σ) (r : Registry) (name sql : String) (values : List Value) :
    StateM σ (Except Error Outcome) :=
  match r.get name with
  | .error e => pure (.error e)
  | .ok h => b.call h sql values

/-- A statement on a given database, which is asked only if the statement is complete. -/
def executeOn (b : Backend σ) (h : Handle) (s : Statement) : StateM σ (Except Error Outcome) :=
  match s.prepare with
  | .error e => pure (.error e)
  | .ok (sql, values) => b.call h sql values

/-- A statement on the database that it names, which is looked up only if the statement is complete. -/
def execute (b : Backend σ) (r : Registry) (s : Statement) : StateM σ (Except Error Outcome) :=
  match s.prepare with
  | .error e => pure (.error e)
  | .ok (sql, values) => b.query r s.options.database sql values

/-- The handle under a name leaves the registry and is closed. -/
def remove (b : Backend σ) (r : Registry) (name : String) : StateM σ (Option Handle × Registry) := do
  let (removed, rest) := r.remove name
  match removed with
  | some h => b.close h
  | none => pure ()
  return (removed, rest)

/-- The event of a database that leaves a registry with all others. -/
def closing (name : String) : Event where
  target := "pgquery"
  level := .debug
  fields := [("message", .text "closing database"), ("database", .text name)]

/-- All handles are closed, and none is left. They may be closed in any order; that of their names is one of those
allowed. -/
def closeAll (b : Backend σ) (r : Registry) : StateM σ Registry := do
  for (name, h) in r.sorted do
    b.tell (closing name)
    b.close h
  return {}

end Backend

end TypedSql
