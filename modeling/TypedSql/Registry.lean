import TypedSql.Error
import TypedSql.Pairs
import TypedSql.Text.Quoted

/-!
# Registries

* `Handle`: a database that statements can be run on.
* `Registry`: handles by name.
* `Registry.register`, `Registry.remove`, `Registry.get`: one handle in, out, and looked up.
* `Registry.names`: the names, sorted.
-/

namespace TypedSql

/-- A database that statements can be run on: a number that tells it from all others, and a name of its own. -/
structure Handle where
  id : Nat
  name : String
deriving DecidableEq

/-- Handles by name. -/
structure Registry where
  entries : List (String × Handle) := []
deriving DecidableEq

namespace Registry

/-- A handle under a name, and the handle that it takes the place of. -/
def register (r : Registry) (name : String) (h : Handle) : Option Handle × Registry :=
  (Pairs.get? name r.entries, ⟨Pairs.put name h r.entries⟩)

def get (r : Registry) (name : String) : Except Error Handle :=
  match Pairs.get? name r.entries with
  | some h => .ok h
  | none => .error (.unknownDatabase name)

/-- Whether there is a handle under a name. -/
def contains (r : Registry) (name : String) : Bool :=
  (Pairs.get? name r.entries).isSome

/-- The handle under a name, and the registry without it. -/
def remove (r : Registry) (name : String) : Option Handle × Registry :=
  (Pairs.get? name r.entries, ⟨Pairs.erase name r.entries⟩)

/-- The handles in the order of their names. A registry has no order of its own, and promises none: this is one of those
in which its handles may be listed. -/
def sorted (r : Registry) : List (String × Handle) :=
  Pairs.sorted r.entries

/-- The names, listed in the order of `sorted`, one of those allowed. Only `display` depends on this order. -/
def names (r : Registry) : List String :=
  Pairs.names r.sorted

def display (r : Registry) : String :=
  "Registry \x7b databases: [" ++ String.intercalate ", " (r.names.map Text.quoted) ++ "] \x7d"

end Registry

end TypedSql
