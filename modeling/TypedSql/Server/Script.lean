import TypedSql.Server

/-!
# Servers that follow a script

Names and tags go to the client as texts that a NUL ends, so that one inside them spoils what follows.

* `Script.Entry`: what such a server does about one text.
* `Script.server`: the server of a list of entries.
-/

namespace TypedSql.Script

/-- What a request is about when it fails. -/
inductive Stage where
  | prepare
  | execute
deriving DecidableEq

/-- What a server does about one text. -/
structure Entry where
  sql : String
  description : Description
  answer : Answer
  failure : Option (Stage × Failure) := none
deriving DecidableEq

/-- The failure of an entry at a stage. -/
def Entry.failureAt (e : Entry) (stage : Stage) : Option Failure :=
  match e.failure with
  | some (s, f) => if s = stage then some f else none
  | none => none

/-- The failure of a text without an entry. -/
def unscripted : Failure :=
  .error "42601" "unscripted statement"

/-- The description of an entry. Behind a name that holds a NUL stands a type that no one knows, and the client asks the
server for it with a text that has no entry. -/
def Entry.described (e : Entry) : Except Failure Description :=
  if e.description.columns.any fun (name, _) => name.toList.contains '\x00' then .error unscripted
  else .ok e.description

/-- The answer of an entry; nothing may stand behind its tag. -/
def Entry.answered (e : Entry) : Except Failure Answer :=
  if e.answer.tag.toList.contains '\x00' then .error .garbled else .ok e.answer

/-- A result, unless the entry of the text fails at this stage or there is none. -/
def respond {α : Type} (entries : List Entry) (stage : Stage) (result : Entry → Except Failure α) (sql : String) :
    Except Failure α :=
  match entries.find? (·.sql == sql) with
  | none => .error unscripted
  | some e =>
    match e.failureAt stage with
    | some f => .error f
    | none => result e

/-- The server of a list of entries. -/
def server (refusal : Option Failure) (entries : List Entry) : Server where
  refusal := refusal
  prepare := respond entries .prepare Entry.described
  execute sql _ := respond entries .execute Entry.answered sql

end TypedSql.Script
