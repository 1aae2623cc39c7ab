import TypedSql.Config.Expansion
import TypedSql.Toml.Reading

/-!
# Reading configurations

* `DatabaseConfig.ofToml?`: the description of a database, a table or an array of its parts in order.
* `Config.parse?`: the databases that a TOML text describes, in the order of their names.
* `Config.resolved`: each address expanded and each database checked.
* `Config.ofText`, `Config.ofFile`: the configuration of a text or a file.
-/

namespace TypedSql

namespace DatabaseConfig

def textOf? : Toml → Option String
  | .string s => some s
  | _ => none

/-- An integer of sixty-four bits. -/
def limitOf? : Toml → Option (Signed 64)
  | .integer n => Signed.ofInt? 64 n
  | _ => none

/-- An integer of sixty-four bits without a sign. -/
def sizeOf? : Toml → Option Nat
  | .integer n => if 0 ≤ n ∧ n < 2 ^ 64 then some n.toNat else none
  | _ => none

/-- A part that may be missing, but not be of the wrong type. -/
def part? {α : Type} (read : Toml → Option α) : Option Toml → Option (Option α)
  | none => some none
  | some v => (read v).map some

/-- The description of a database by its parts; only the address is required. -/
def ofParts? (url maxSize sqlLogMaxLen fetchLimit : Option Toml) : Option DatabaseConfig := do
  let url ← url.bind textOf?
  let maxSize ← part? sizeOf? maxSize
  let sqlLogMaxLen ← part? sizeOf? sqlLogMaxLen
  let fetchLimit ← part? limitOf? fetchLimit
  return { url, maxSize := maxSize.getD 16, sqlLogMaxLen, fetchLimit }

def partNames : List String :=
  ["url", "max_size", "sql_log_max_len", "fetch_limit"]

/-- The description of a database: a table, whose unknown entries are passed over if their numbers can be held, or an
array of its parts in order, whose further items are passed over. -/
def ofToml? : Toml → Option DatabaseConfig
  | .table _ es =>
    if es.all fun (name, v) => partNames.contains name || v.isHeld then
      ofParts? (Pairs.get? "url" es) (Pairs.get? "max_size" es) (Pairs.get? "sql_log_max_len" es)
        (Pairs.get? "fetch_limit" es)
    else none
  | .array items => ofParts? items[0]? items[1]? items[2]? items[3]?
  | _ => none

end DatabaseConfig

namespace Config

/-- The databases of a document; without a table of them there are none. Its other entries are passed over if their
numbers can be held. -/
def databasesOf? (document : Toml.Entries) : Option (List (String × DatabaseConfig)) :=
  if document.all fun (name, v) => name == "databases" || v.isHeld then
    match Pairs.get? "databases" document with
    | none => some []
    | some (.table _ es) => es.mapM fun (name, v) => (DatabaseConfig.ofToml? v).map (name, ·)
    | some _ => none
  else none

/-- The databases that a TOML text describes, in the order of their names. -/
def parse? (text : String) : Option (List (String × DatabaseConfig)) := do
  let document ← Toml.read? text
  let databases ← databasesOf? document
  return Pairs.sorted databases

/-- A database with its address expanded, if it can be used. -/
def resolve (lookup : Lookup) (name : String) (d : DatabaseConfig) : Except Fault DatabaseConfig := do
  let url ← expand lookup d.url
  checked name { d with url }

/-- All databases with their addresses expanded; the first that cannot be used is reported. -/
def resolved (lookup : Lookup) (databases : List (String × DatabaseConfig)) : Except Fault Config := do
  let databases ← databases.mapM fun (name, d) => (resolve lookup name d).map (name, ·)
  return ⟨databases⟩

def ofText (lookup : Lookup) (text : String) : Except Fault Config :=
  match parse? text with
  | some databases => resolved lookup databases
  | none => .error .unparsable

/-- The configuration that a file describes, given its contents if it exists. -/
def ofFile (lookup : Lookup) (path : String) : Option String → Except Fault Config
  | some text => ofText lookup text
  | none => .error (.unreadable path (.ofPath path))

end Config

end TypedSql
