import TypedSql.Error
import TypedSql.Json.Shape
import TypedSql.Record

/-!
# Ordered data

* `DataMap`: the fields of a statement with their values, in the order of their first insertion.
* `DataMap.insert`, `DataMap.merge`, `DataMap.mergeJson`, `DataMap.mergeSerialized`: more entries, which may be
  restricted to given fields.
* `DataMap.entries_insert`: a field that is there keeps its place.
-/

namespace TypedSql

/-- Fields with their values, in the order of their first insertion. -/
structure DataMap where
  entries : List (String × Value) := []
  nodup : (Pairs.names entries).Nodup := by exact List.nodup_nil
deriving DecidableEq

/-- What can be merged in its JSON form: a record, a JSON value, or a map whose keys are no strings. -/
inductive Source where
  | record (r : Record)
  | json (j : Json)
  | oddKeys

def Source.toJson : Source → Except Error Json
  | record r => .ok r.toJson
  | json j => .ok j
  | oddKeys => .error (.serialization "key must be a string")

namespace DataMap

def empty : DataMap := {}

def fields (d : DataMap) : List String :=
  Pairs.names d.entries

/-- The values, in the order of their fields. -/
def values (d : DataMap) : List Value :=
  d.entries.map Prod.snd

def size (d : DataMap) : Nat :=
  d.entries.length

def isEmpty (d : DataMap) : Bool :=
  d.entries.isEmpty

def get? (d : DataMap) (field : String) : Option Value :=
  Pairs.get? field d.entries

/-- A value for a field: in place of the one it has, or after all others. -/
def insert (d : DataMap) (field : String) (v : Value) : DataMap where
  entries := Pairs.put field v d.entries
  nodup := Pairs.nodup_put field v d.nodup

/-- Whether a filter lets a field pass; no filter lets all pass. -/
def allows (filter : Option (List String)) (field : String) : Bool :=
  match filter with
  | none => true
  | some fields => fields.contains field

/-- Insert the entries that pass the filter, one after the other. -/
def merge (d : DataMap) (entries : List (String × Value)) (filter : Option (List String)) : DataMap :=
  (entries.filter fun p => allows filter p.1).foldl (fun d p => d.insert p.1 p.2) d

/-- The members of an object that are scalars; all else has none. -/
def scalars : Json → List (String × Value)
  | .object members => members.filterMap fun (name, j) => (Value.ofJson? j).map (name, ·)
  | _ => []

/-- Insert the scalar members of an object. -/
def mergeJson (d : DataMap) (j : Json) (filter : Option (List String)) : DataMap :=
  d.merge (scalars j) filter

/-- Insert the scalar members of a source in its JSON form. -/
def mergeSerialized (d : DataMap) (s : Source) (filter : Option (List String)) : Except Error DataMap :=
  s.toJson.map fun j => d.mergeJson j filter

def ofList (entries : List (String × Value)) : DataMap :=
  empty.merge entries none

def ofJson : Json → Except Json.Misfit DataMap
  | .object members => .ok (empty.mergeJson (.object members) none)
  | _ => .error .shape

theorem entries_insert (d : DataMap) (field : String) (v : Value) :
    (d.insert field v).entries = Pairs.put field v d.entries := rfl

theorem get?_insert_self (d : DataMap) (field : String) (v : Value) : (d.insert field v).get? field = some v :=
  Pairs.get?_put_self field v d.entries

end DataMap

end TypedSql
