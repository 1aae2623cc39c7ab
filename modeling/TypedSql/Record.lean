import TypedSql.Value

/-!
# Records

* `Record`: one row of a result, its fields in column order.
* `Record.toJson`: the object that a record is; of fields with one name the last value counts.
* `Record.serialized`: the text of all fields, one after the other.
-/

namespace TypedSql

/-- One row of a result: names and values in column order. A name may occur more than once. -/
structure Record where
  fields : List (String × Value)
deriving DecidableEq

namespace Record

def size (r : Record) : Nat :=
  r.fields.length

def isEmpty (r : Record) : Bool :=
  r.fields.isEmpty

/-- The names of the fields, in column order. -/
def names (r : Record) : List String :=
  Pairs.names r.fields

/-- The value of the first field of a name. -/
def get? (r : Record) (name : String) : Option Value :=
  Pairs.get? name r.fields

/-- The members of the object that a record is: a name keeps its first place and takes its last value. -/
def members (r : Record) : List (String × Json) :=
  r.fields.foldl (fun ms p => Pairs.put p.1 p.2.toJson ms) []

def toJson (r : Record) : Json :=
  .object r.members

/-- The text of an object with every field as a member, repeated names included. -/
def serialized (r : Record) : String :=
  (Json.object (r.fields.map fun p => (p.1, p.2.toJson))).text

end Record

end TypedSql
