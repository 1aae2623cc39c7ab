import TypedSql.Number.Binary
import TypedSql.Pairs

/-!
# TOML values

* `Toml`: a value; a table remembers what brought it into being.
* `Toml.isHeld`: all numbers in a value can be held.
* `Toml.alter?`: change the table that a path leads to.
* `Toml.assign?`: a value for a key, which may be dotted.
* `Toml.openTable?`, `Toml.openItem?`: the header of a table, and of the next table of an array.
-/

namespace TypedSql

/-- What brings a table into being: its own header, the header of a table inside it, a dotted key, or braces. -/
inductive Toml.Origin where
  | header
  | implied
  | dotted
  | inline
deriving DecidableEq

/-- A value. A float is none if it is beyond the finite ones, and a date or a time keeps its text. An array of tables
grows by headers, and any other array does not. -/
inductive Toml where
  | string (s : String)
  | integer (n : Int)
  | float (x : Option Double)
  | boolean (b : Bool)
  | moment (text : String)
  | array (items : List Toml)
  | tables (items : List (List (String × Toml)))
  | table (origin : Toml.Origin) (entries : List (String × Toml))

namespace Toml

/-! ## Numbers -/

mutual

/-- Whether all numbers in a value can be held: integers in a word of 128 bits with or without a sign, and finite floats.
-/
def isHeld : Toml → Bool
  | integer n => -2 ^ 127 ≤ n && n < 2 ^ 128
  | float x => x.isSome
  | array items => areHeld items
  | tables items => tablesAreHeld items
  | table _ es => entriesAreHeld es
  | string _ | boolean _ | moment _ => true

/-- Whether the numbers in all items can be held. -/
def areHeld : List Toml → Bool
  | [] => true
  | v :: vs => v.isHeld && areHeld vs

/-- Whether the numbers in all entries can be held. -/
def entriesAreHeld : List (String × Toml) → Bool
  | [] => true
  | (_, v) :: es => v.isHeld && entriesAreHeld es

/-- Whether the numbers in all tables can be held. -/
def tablesAreHeld : List (List (String × Toml)) → Bool
  | [] => true
  | es :: rest => entriesAreHeld es && tablesAreHeld rest

end

/-! ## Tables -/

/-- The entries of a table. -/
abbrev Entries := List (String × Toml)

/-- Whether a path whose missing tables come into being as `made` may lead through a table: one in braces is closed, and
a dotted key stays away from tables with a header. -/
def Origin.admits (made : Origin) : Origin → Bool
  | inline => false
  | header => made ≠ dotted
  | implied | dotted => true

/-- Change the table that a path leads to. Missing tables are made, and an array of tables is entered at its end. -/
def alter? (made : Origin) (change : Origin → Entries → Option Entries) :
    List String → Origin → Entries → Option Entries
  | [], origin, es => change origin es
  | name :: path, _, es => do
    let v ←
      match Pairs.get? name es with
      | none => (alter? made change path made []).map (table made)
      | some (.table origin inner) =>
        if made.admits origin then (alter? made change path origin inner).map (table origin) else none
      | some (.tables items) =>
        match items.getLast? with
        | some inner => (alter? made change path .header inner).map fun inner => tables (items.dropLast ++ [inner])
        | none => none
      | some _ => none
    return Pairs.put name v es

/-- A value for the last name of a key, in the table that the names before it lead to. Such a table must be one that
dotted keys have made, and no name can have a second value. -/
def assign? (key : List String) (v : Toml) (es : Entries) : Option Entries := do
  let name ← key.getLast?
  alter? .dotted
    (fun origin es =>
      if (key.length = 1 ∨ origin = .dotted) ∧ name ∉ Pairs.names es then some (es ++ [(name, v)]) else none)
    key.dropLast .header es

/-- The header of a table, which may only have been implied before. -/
def openTable? (key : List String) (es : Entries) : Option Entries := do
  let name ← key.getLast?
  alter? .implied
    (fun _ es =>
      match Pairs.get? name es with
      | none => some (Pairs.put name (table .header []) es)
      | some (.table .implied inner) => some (Pairs.put name (table .header inner) es)
      | some _ => none)
    key.dropLast .header es

/-- The header of the next table of an array. -/
def openItem? (key : List String) (es : Entries) : Option Entries := do
  let name ← key.getLast?
  alter? .implied
    (fun _ es =>
      match Pairs.get? name es with
      | none => some (Pairs.put name (tables [[]]) es)
      | some (.tables items) => some (Pairs.put name (tables (items ++ [[]])) es)
      | some _ => none)
    key.dropLast .header es

end Toml

end TypedSql
