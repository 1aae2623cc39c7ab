import TypedSql.Record

/-!
# Outcomes

* `Outcome`: the records of a query, or the number of rows that a statement has changed.
-/

namespace TypedSql

/-- What the execution of a statement yields. -/
inductive Outcome where
  | rows (records : List Record)
  | count (n : Nat)
deriving DecidableEq

namespace Outcome

/-- The records of a query; other statements have none. -/
def records : Outcome → List Record
  | rows records => records
  | count _ => []

/-- The number of changed rows, or of records. -/
def size : Outcome → Nat
  | rows records => records.length
  | count n => n

end Outcome

end TypedSql
