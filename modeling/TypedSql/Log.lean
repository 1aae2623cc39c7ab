import TypedSql.Parameter
import TypedSql.Text.Utf8

/-!
# Events

* `Event`: what is told to an observer: a level, a target and fields.
* `SqlLog`: how much of an executed text is told.
* `SqlLog.truncated`: the longest start of whole characters within the limit, and three points.
* `bindEvents`: one event for each parameter, up to the first that does not fit.
-/

namespace TypedSql

inductive Level where
  | debug
  | info
deriving DecidableEq

/-- What a field of an event holds. -/
inductive FieldValue where
  | text (s : String)
  | number (n : Int)
deriving DecidableEq

/-- What is told to an observer. -/
structure Event where
  target : String
  level : Level
  fields : List (String × FieldValue)
deriving DecidableEq

/-- The limit, in bytes, of the texts that are told; without one they are told in full. -/
structure SqlLog where
  maxLength : Option Nat := some 200
deriving DecidableEq

namespace SqlLog

/-- The longest start of whole characters with at most `limit` bytes. -/
def fitting : Nat → List Char → List Char
  | _, [] => []
  | limit, c :: s => if c.utf8Size ≤ limit then c :: fitting (limit - c.utf8Size) s else []

/-- A text, cut to the limit if it is longer. -/
def truncated (log : SqlLog) (sql : String) : String :=
  match log.maxLength with
  | none => sql
  | some limit => if limit < sql.utf8ByteSize then String.ofList (fitting limit sql.toList) ++ "..." else sql

/-- The event of an executed text. -/
def executed (log : SqlLog) (database sql : String) (parameterCount : Nat) : Event where
  target := "pgquery.sql"
  level := .debug
  fields := [("database", .text database), ("param_count", .number parameterCount), ("sql", .text (log.truncated sql))]

end SqlLog

/-- The event of a parameter that is bound. -/
def bindEvent (position : Nat) (type : SqlType) (v : Value) : Event where
  target := "pgquery.bind"
  level := .debug
  fields :=
    [("message", .text "binding parameter"), ("position", .number position), ("sql_type", .text type.name),
      ("value_type", .text v.typeName), ("value", .text v.display)]

/-- The events of the parameters from a position on, up to the first that does not fit. -/
def bindEventsFrom (position : Nat) : List (SqlType × Value) → List Event
  | [] => []
  | (type, v) :: rest =>
    bindEvent position type v ::
      match Parameter.of type v with
      | .ok _ => bindEventsFrom (position + 1) rest
      | .error _ => []

/-- The events of a binding; values that are too many or too few cause none. -/
def bindEvents (types : List SqlType) (values : List Value) : List Event :=
  if types.length = values.length then bindEventsFrom 1 (types.zip values) else []

end TypedSql
