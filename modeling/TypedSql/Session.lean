import TypedSql.Config
import TypedSql.Placeholder
import TypedSql.Pool
import TypedSql.Server
import TypedSql.Text.Quoted

/-!
# Sessions

A session runs statements on a server through a pool of connections.

* `Session`: its name, its pool, and how it tells of executions and reads rows.
* `Session.connect`: the session of a configured database; nothing connects yet.
* `Session.execute`: one text with its values. A server is asked to execute it only if all values fit.
* `Session.describe`: what a server says about a text.
* `Session.close`: the end of a session.
-/

namespace TypedSql

/-- The name, the pool, and how executions are told of and rows are read. -/
structure Session where
  name : String
  pool : Pool
  log : SqlLog := {}
  materializer : Materializer := {}
deriving DecidableEq

/-- A text and its cells, as a server has been asked to execute them. -/
structure Execution where
  sql : String
  cells : List Cell
deriving DecidableEq

/-- What has come of a request: its result, the session after it, what has been told, and what a server has been asked to
execute. -/
structure Session.Run (α : Type) where
  result : Except Error α
  session : Session
  events : List Event
  executed : List Execution

namespace Session

def connect (name : String) (d : DatabaseConfig) : Except Error Session := do
  let pool ← Pool.new d.url d.maxSize
  let materializer :=
    match d.fetchLimit with
    | some n => Materializer.withLimit n.val
    | none => {}
  return { name, pool, log := d.sqlLog, materializer }

/-- An event about a pool. -/
def poolEvent (level : Level) (s : Session) (message : String) (more : List (String × FieldValue)) : Event where
  target := "pgquery"
  level := level
  fields := [("message", .text message), ("database", .text s.name)] ++ more

def created (s : Session) : Event :=
  poolEvent .debug s "created pool" [("max_size", .number s.pool.maxSize)]

/-- The session with a connection to a server, made if there is none yet. -/
def acquire (server : Server) (s : Session) : Except Error Session :=
  if !s.pool.isOpen then .error (.pool "Pool has been closed")
  else
    match server.refusal with
    | some f => .error (.pool ("Error occurred while creating a new object: " ++ f.summary))
    | none => .ok { s with pool := s.pool.withConnection }

/-- What a server says about a text with numbered placeholders. A text that holds a NUL cannot be sent. -/
def prepare (server : Server) (text : String) : Except Error Description :=
  if text.toList.contains '\x00' then .error (.database "error encoding message to server")
  else (server.prepare text).mapError Failure.toError

/-- What a server says about a text, its placeholders numbered. -/
def describe (server : Server) (s : Session) (sql : String) : Run Description :=
  match s.acquire server with
  | .error e => ⟨.error e, s, [], []⟩
  | .ok s => ⟨prepare server (Placeholder.numbered sql), s, [], []⟩

/-- One text with its values: it is prepared, the values are brought to the types of its placeholders, and then it is
executed. -/
def execute (server : Server) (s : Session) (sql : String) (values : List Value) : Run Outcome :=
  let text := Placeholder.numbered sql
  let told := s.log.executed s.name text values.length
  match s.acquire server with
  | .error e => ⟨.error e, s, [told], []⟩
  | .ok s =>
    match prepare server text with
    | .error e => ⟨.error e, s, [told], []⟩
    | .ok d =>
      let events := told :: bindEvents d.types values
      match d.cells values with
      | .error e => ⟨.error e, s, events, []⟩
      | .ok cells =>
        let answer := (server.execute text cells).mapError Failure.toError
        ⟨answer.bind (d.outcome s.materializer), s, events, [⟨text, cells⟩]⟩

/-- The end of a session; it may be repeated. -/
def close (s : Session) : Run Unit :=
  ⟨.ok (), { s with pool := .closed }, [poolEvent .info s "closing pool" []], []⟩

def display (s : Session) : String :=
  "PgDatabase \x7b name: " ++ Text.quoted s.name ++ ", pool: " ++ s.pool.display ++ " \x7d"

end Session

end TypedSql
