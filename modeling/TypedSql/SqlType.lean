/-!
# SQL types

* `SqlType`: the declared type of a parameter or a column.
* `SqlType.name`, `SqlType.ofName`: the name of a type.
* `SqlType.ofServer`: the type that a type name of the server stands for.
-/

namespace TypedSql

/-- The declared type of a parameter or a column. Types without a treatment of their own keep their server name. -/
inductive SqlType where
  | smallInt
  | integer
  | bigInt
  | real
  | double
  | numeric
  | boolean
  | date
  | time
  | timestamp
  | timestampTz
  | char
  | varChar
  | text
  | other (name : String)
deriving DecidableEq

namespace SqlType

def name : SqlType → String
  | smallInt => "smallint"
  | integer => "integer"
  | bigInt => "bigint"
  | real => "real"
  | double => "double precision"
  | numeric => "numeric"
  | boolean => "boolean"
  | date => "date"
  | time => "time"
  | timestamp => "timestamp"
  | timestampTz => "timestamptz"
  | char => "char"
  | varChar => "varchar"
  | text => "text"
  | other name => name

/-- The types that have a name of their own. -/
def named : List SqlType :=
  [smallInt, integer, bigInt, real, double, numeric, boolean, date, time, timestamp, timestampTz, char, varChar, text]

def ofName (s : String) : SqlType :=
  (named.find? (·.name == s)).getD (other s)

/-- The type that a type name of the server stands for. -/
def ofServer : String → SqlType
  | "int2" => smallInt
  | "int4" => integer
  | "int8" => bigInt
  | "float4" => real
  | "float8" => double
  | "numeric" => numeric
  | "bool" => boolean
  | "date" => date
  | "time" => time
  | "timestamp" => timestamp
  | "timestamptz" => timestampTz
  | "bpchar" | "char" => char
  | "varchar" => varChar
  | "text" | "name" | "unknown" => text
  | s => other s

def isInteger : SqlType → Bool
  | smallInt | integer | bigInt => true
  | _ => false

def isFloat : SqlType → Bool
  | real | double => true
  | _ => false

def isTemporal : SqlType → Bool
  | date | time | timestamp | timestampTz => true
  | _ => false

/-- A type that has no treatment of its own. -/
def isOther : SqlType → Bool
  | other _ => true
  | _ => false

end SqlType

end TypedSql
