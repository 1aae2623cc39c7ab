/-!
# Errors

* `Error`: why a statement cannot be built, bound or run.
* `Error.message`: the wording of each.
* `Error.isStructural`, `Error.isBinding`: whether it arose while a statement was built or its parameters were bound.
-/

namespace TypedSql

/-- Why a statement cannot be built, bound or run. -/
inductive Error where
  /-- The statement has no table. -/
  | tableNotSet
  /-- A statement of this keyword needs data. -/
  | emptyData (keyword : String)
  /-- A column that cannot be written. -/
  | invalidColumn (shown : String)
  /-- A comparison without a field. -/
  | missingField
  /-- A comparison without a value. -/
  | missingValue (field : String)
  /-- A comparison without an operator. -/
  | missingOperator (field : String)
  /-- A range without its upper end. -/
  | missingSecondValue (field : String)
  /-- A disjunction of nothing. -/
  | emptyOr
  /-- A statement of this keyword takes no conditions. -/
  | conditionsNotAllowed (keyword : String)
  /-- A deletion of all rows that has not been asked for. -/
  | unconditionedDelete (table : String)
  /-- More or fewer values than placeholders. -/
  | countMismatch (expected actual : Nat)
  /-- The value at a position, counted from one, does not fit its type. -/
  | coercion (position : Nat) (reason : String)
  /-- The server or its driver refuses. -/
  | database (reason : String)
  /-- There is no connection. -/
  | connection (reason : String)
  /-- There is no connection to be had from the pool. -/
  | pool (reason : String)
  /-- No database has this name. -/
  | unknownDatabase (name : String)
  /-- A source that has no JSON form. -/
  | serialization (reason : String)
  /-- The configuration cannot be used. -/
  | config (reason : String)
deriving DecidableEq

namespace Error

def message : Error → String
  | tableNotSet => "Query needs a table name"
  | emptyData keyword => "No data set for the " ++ keyword ++ " statement"
  | invalidColumn shown => "Invalid column spec: " ++ shown
  | missingField => "Field not set"
  | missingValue field => "Value not set on condition for '" ++ field ++ "'"
  | missingOperator field => "Operator not set on condition for '" ++ field ++ "'"
  | missingSecondValue field => "Second value not set on BETWEEN condition for '" ++ field ++ "'"
  | emptyOr => "OR condition has no children"
  | conditionsNotAllowed keyword => keyword ++ " statements do not take conditions"
  | unconditionedDelete table =>
    "DELETE FROM " ++ table ++ " has no conditions; call allow_delete_all(true) to permit it"
  | countMismatch expected actual =>
    "Statement expects " ++ Nat.repr expected ++ " parameters, got " ++ Nat.repr actual
  | coercion position reason => "Cannot bind parameter " ++ Nat.repr position ++ ": " ++ reason
  | database reason => "Database error: " ++ reason
  | connection reason => "Connection error: " ++ reason
  | pool reason => "Pool error: " ++ reason
  | unknownDatabase name => "Unknown database: " ++ name
  | serialization reason => "Serialization error: " ++ reason
  | config reason => "Configuration error: " ++ reason

/-- Raised while a statement is built, before any database is asked. -/
def isStructural : Error → Bool
  | tableNotSet | emptyData _ | invalidColumn _ | missingField | missingValue _ | missingOperator _
  | missingSecondValue _ | emptyOr | conditionsNotAllowed _ | unconditionedDelete _ => true
  | _ => false

/-- Raised while parameters are bound. -/
def isBinding : Error → Bool
  | countMismatch _ _ | coercion _ _ => true
  | _ => false

end Error

end TypedSql
