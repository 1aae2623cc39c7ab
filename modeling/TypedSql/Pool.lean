import TypedSql.Connection.Reading
import TypedSql.Error

/-!
# Pools of connections

* `Pool`: how many connections there may be, how many there are, and how many of them are idle.
* `Pool.new`: a pool without connections, if its size and its connection string can be used.
* `Pool.closed`: a pool that gives out no more connections.
-/

namespace TypedSql

/-- How many connections there may be, how many there are, and how many of them are idle. -/
structure Pool where
  maxSize : Nat
  size : Nat
  available : Nat
  isOpen : Bool
deriving DecidableEq

namespace Pool

/-- The size of a pool that is not told another one. -/
def usualSize : Nat := 16

/-- A pool without connections. The size is looked at before the connection string. -/
def new (url : String) (maxSize : Nat) : Except Error Pool :=
  if maxSize = 0 then .error (.config "pool max_size must be positive")
  else
    match Connection.settings? url with
    | none => .error (.connection "invalid connection string")
    | some _ => .ok ⟨maxSize, 0, 0, true⟩

/-- A pool without any connection, and without room for one. -/
def closed : Pool := ⟨0, 0, 0, false⟩

/-- A pool with a connection that has been given back. -/
def withConnection (p : Pool) : Pool :=
  { p with size := max p.size 1, available := max p.available 1 }

def display (p : Pool) : String :=
  "Status \x7b max_size: " ++ Nat.repr p.maxSize ++ ", size: " ++ Nat.repr p.size ++ ", available: " ++
    Nat.repr p.available ++ ", waiting: 0 \x7d"

end Pool

end TypedSql
