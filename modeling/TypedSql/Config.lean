import TypedSql.Config.Absence
import TypedSql.Error
import TypedSql.Log
import TypedSql.Number.Signed
import TypedSql.Pairs
import TypedSql.Text.Blank

/-!
# Configuration

* `DatabaseConfig`: where a database is and how it is used.
* `Config`: the databases by name, in the order of their names.
* `Config.Fault`: why a configuration cannot be used.
* `Config.checked`: a database whose address and pool size can be used.
* `Config.ofEnvironment`: one database, described by two variables.
-/

namespace TypedSql

/-- Where a database is and how it is used: its connection string, the most connections at a time, how much of the
executed texts is told, and how many rows are read. -/
structure DatabaseConfig where
  url : String
  maxSize : Nat := 16
  sqlLogMaxLen : Option Nat := none
  fetchLimit : Option (Signed 64) := none
deriving DecidableEq

/-- How much of the executed texts is told; zero stands for all of it. -/
def DatabaseConfig.sqlLog (d : DatabaseConfig) : SqlLog :=
  match d.sqlLogMaxLen with
  | none => {}
  | some 0 => ⟨none⟩
  | some n => ⟨some n⟩

/-- The databases by name, in the order of their names. -/
structure Config where
  databases : List (String × DatabaseConfig)
deriving DecidableEq

namespace Config

/-- Where the values of variables are looked up. -/
abbrev Lookup := String → Option String

/-- Why a configuration cannot be used. -/
inductive Fault where
  | unreadable (path : String) (cause : Absence)
  | unparsable
  | unterminated (key : String)
  | emptyKey
  | unknownKey (key : String)
  | blankUrl (name : String)
  | zeroSize (name : String)
  | urlNotSet
  | sizeNotNumber (shown : String)
deriving DecidableEq

/-- The reason in words. Of a text that cannot be parsed it leaves out what the parser found, which may follow these
words behind a colon. -/
def Fault.reason : Fault → String
  | unreadable path cause => "failed to read config file " ++ path ++ ": " ++ cause.reason
  | unparsable => "failed to parse config"
  | unterminated key => "unterminated env var reference: $\x7b" ++ key ++ "\x7d"
  | emptyKey => "invalid env var reference: $\x7b\x7d"
  | unknownKey key => "missing env var for config expansion: " ++ key
  | blankUrl name => "databases." ++ name ++ ".url must not be empty"
  | zeroSize name => "databases." ++ name ++ ".max_size must be positive"
  | urlNotSet => "DATABASE_URL is not set"
  | sizeNotNumber shown => "DATABASE_MAX_SIZE is not a number: " ++ shown

def Fault.error (f : Fault) : Error :=
  .config f.reason

/-- A database whose address is not blank and whose pool has room; the address is looked at first. -/
def checked (name : String) (d : DatabaseConfig) : Except Fault DatabaseConfig :=
  if Text.isBlankText d.url then .error (.blankUrl name)
  else if d.maxSize = 0 then .error (.zeroSize name)
  else .ok d

/-! ## Two variables -/

/-- The most connections that a text asks for, as an unsigned integer of sixty-four bits. -/
def readSize (s : String) : Except Fault Nat :=
  match (readUnsigned? (Text.trimChars s.toList)).filter (· < 2 ^ 64) with
  | some n => .ok n
  | none => .error (.sizeNotNumber s)

/-- The database `main` as two variables describe it: its address, which is taken as it stands, and optionally the size
of its pool. -/
def ofEnvironment (lookup : Lookup) : Except Fault Config := do
  match lookup "DATABASE_URL" with
  | none => throw .urlNotSet
  | some url =>
    let d ←
      match lookup "DATABASE_MAX_SIZE" with
      | none => pure { url }
      | some s =>
        let maxSize ← readSize s
        pure { url, maxSize }
    let d ← checked "main" d
    return ⟨[("main", d)]⟩

end Config

end TypedSql
