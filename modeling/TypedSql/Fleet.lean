import TypedSql.Backend
import TypedSql.Session

/-!
# Databases in memory

* `Recorder`: a database that gives the same reply to every call, and the calls are kept.
* `Fleet`: recorders and sessions, with the calls, the closed recorders and the events so far.
* `Fleet.backend`: how the members of a fleet answer and close.
* `Fleet.openSession`: a session with a pool of the usual size.
* `Fleet.connectAll`: sessions for all databases of a configuration.
-/

namespace TypedSql

/-- A database that gives the same reply to every call until it is closed. -/
structure Recorder where
  number : Nat
  reply : Except Error Outcome
  isOpen : Bool := true

/-- A database behind a handle. -/
inductive Member where
  | recorder (r : Recorder)
  | session (s : Session)

/-- A call that a recorder has answered. -/
structure Call where
  number : Nat
  sql : String
  values : List Value
deriving DecidableEq

/-- Databases in the order of the numbers of their handles, the calls and the closed recorders in the order of time, and
the events. -/
structure Fleet where
  members : List Member := []
  calls : List Call := []
  closed : List Nat := []
  events : List Event := []

namespace Fleet

/-- One more member, under a handle with this name. -/
def join (name : String) (m : Member) : StateM Fleet Handle := do
  let f ← get
  set { f with members := f.members ++ [m] }
  return ⟨f.members.length, name⟩

def recorderCount (f : Fleet) : Nat :=
  f.members.countP fun
    | .recorder _ => true
    | .session _ => false

/-- One more recorder; they are counted from one. -/
def record (name : String) (reply : Except Error Outcome) : StateM Fleet Handle := do
  let f ← get
  join name (.recorder ⟨f.recorderCount + 1, reply, true⟩)

def tell (e : Event) : StateM Fleet Unit :=
  modify fun f => { f with events := f.events ++ [e] }

/-- A session with a pool of the usual size. Nothing is told of it. -/
def openSession (name url : String) : StateM Fleet (Except Error (Handle × Session)) := do
  match Pool.new url Pool.usualSize with
  | .error e => return .error e
  | .ok pool =>
    let s : Session := { name, pool }
    let h ← join name (.session s)
    return .ok (h, s)

def connect (name : String) (d : DatabaseConfig) : StateM Fleet (Except Error Handle) := do
  match Session.connect name d with
  | .error e => return .error e
  | .ok s =>
    tell s.created
    let h ← join name (.session s)
    return .ok h

/-- Sessions for databases, one after the other, registered under their names; the first fault is reported. -/
def connectFrom (r : Registry) : List (String × DatabaseConfig) → StateM Fleet (Except Error Registry)
  | [] => return .ok r
  | (name, d) :: rest => do
    match ← connect name d with
    | .error e => return .error e
    | .ok h => connectFrom (r.register name h).2 rest

/-- A registry of sessions for all databases of a configuration. -/
def connectAll (c : Config) : StateM Fleet (Except Error Registry) :=
  connectFrom {} c.databases

def replace (h : Handle) (m : Member) : StateM Fleet Unit :=
  modify fun f => { f with members := f.members.set h.id m }

/-- A member answers: a recorder as long as it is open, and a session through its server. -/
def call (server : Server) (h : Handle) (sql : String) (values : List Value) :
    StateM Fleet (Except Error Outcome) := do
  match (← get).members[h.id]? with
  | some (.recorder r) =>
    if r.isOpen then
      modify fun f => { f with calls := f.calls ++ [⟨r.number, sql, values⟩] }
      return r.reply
    else return .error (.pool "closed")
  | some (.session s) =>
    let run := s.execute server sql values
    replace h (.session run.session)
    run.events.forM tell
    return run.result
  | none => return .error (.unknownDatabase h.name)

/-- A member closes; for a recorder this is noted each time. -/
def close (h : Handle) : StateM Fleet Unit := do
  match (← get).members[h.id]? with
  | some (.recorder r) =>
    replace h (.recorder { r with isOpen := false })
    modify fun f => { f with closed := f.closed ++ [r.number] }
  | some (.session s) =>
    let run := s.close
    replace h (.session run.session)
    run.events.forM tell
  | none => pure ()

/-- How the members of a fleet answer and close. -/
def backend (server : Server) : Backend Fleet where
  call := call server
  close := close
  tell := tell

end Fleet

end TypedSql
