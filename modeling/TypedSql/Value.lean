import TypedSql.Calendar.Timestamp
import TypedSql.Json
import TypedSql.Number.Signed

/-!
# Scalar values

* `Value`: what is bound to a parameter and read from a column.
* `Value.text`: a value as text.
* `Value.toJson`, `Value.ofJson?`: a value as a JSON scalar, and back.
-/

namespace TypedSql

/-- A scalar that does not depend on a database. -/
inductive Value where
  | null
  | int (n : Signed 64)
  | float (x : Double)
  | bool (b : Bool)
  | text (s : String)
  | timestamp (t : Timestamp)
deriving DecidableEq

namespace Value

def isNull : Value → Bool
  | null => true
  | _ => false

/-- A short name of the kind of value, for messages. -/
def typeName : Value → String
  | null => "null"
  | int _ => "integer"
  | float _ => "float"
  | bool _ => "boolean"
  | text _ => "string"
  | timestamp _ => "timestamp"

/-! ## Making values -/

def ofInt? (n : Int) : Option Value :=
  (Signed.ofInt? 64 n).map int

def ofSingle (x : Single) : Value :=
  float x.widen

def ofDate (d : Date) : Value :=
  timestamp (.ofDate d)

def ofOption : Option Value → Value
  | some v => v
  | none => null

/-! ## Looking into values -/

def toInt? : Value → Option (Signed 64)
  | int n => some n
  | _ => none

/-- The number of a float, or the one nearest to an integer. -/
def toDouble? : Value → Option Double
  | float x => some x
  | int n => some (Binary.ofInt .double n.val)
  | _ => none

def toBool? : Value → Option Bool
  | bool b => some b
  | _ => none

def toText? : Value → Option String
  | text s => some s
  | _ => none

def toTimestamp? : Value → Option Timestamp
  | timestamp t => some t
  | _ => none

/-! ## Text and JSON -/

/-- A value as text: floats in plain layout, timestamps in theirs. -/
def display : Value → String
  | null => "null"
  | int n => intText n.val
  | float x => Layout.plain.text x
  | bool b => if b then "true" else "false"
  | text s => s
  | timestamp t => t.text

/-- A value as a JSON scalar: timestamps become text, infinities and not-a-numbers become null. -/
def toJson : Value → Json
  | null => .null
  | int n => .number (.int n.val)
  | float x => if x.isFinite then .number (.float x) else .null
  | bool b => .bool b
  | text s => .string s
  | timestamp t => .string t.text

/-- The value of a JSON scalar; an integer beyond sixty-four signed bits becomes a float. Arrays and objects have
none. -/
def ofJson? : Json → Option Value
  | .null => some null
  | .bool b => some (bool b)
  | .number (.int n) =>
    match Signed.ofInt? 64 n with
    | some n => some (int n)
    | none => some (float (Binary.ofInt .double n))
  | .number (.float x) => some (float x)
  | .string s => some (text s)
  | .array _ | .object _ => none

end Value

end TypedSql
