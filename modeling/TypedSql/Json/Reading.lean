import TypedSql.Json.Lexeme

/-!
# Reading JSON texts

The lexemes of a text drive a machine that holds the containers which are still open.

* `Json.Frame`: an open container with what it holds so far.
* `Json.Machine`: the open containers and what may come next.
* `Json.Machine.step?`: the effect of one lexeme.
* `Json.read?`: the value of a text.
-/

namespace TypedSql.Json

/-- An open container: the items so far, or the members so far and the name that is waiting for its value. -/
inductive Frame where
  | array (items : List Json)
  | object (members : List (String × Json)) (name : String)

/-- What may come next: a value; a value or the end of an empty array; a name; a name or the end of an empty object; a
colon; a comma or the end of a container; or nothing, the value being complete. -/
inductive Place where
  | value
  | item
  | name
  | member
  | colon
  | separator
  | complete (v : Json)

/-- The open containers, innermost first, and what may come next. -/
structure Machine where
  frames : List Frame
  place : Place

namespace Machine

/-- Containers may be nested this deep. -/
def maxDepth : Nat := 127

/-- A value has been read: it goes into the innermost container. -/
def put (v : Json) : List Frame → Machine
  | [] => ⟨[], .complete v⟩
  | .array items :: rest => ⟨.array (items ++ [v]) :: rest, .separator⟩
  | .object members name :: rest => ⟨.object (Pairs.put name v members) name :: rest, .separator⟩

/-- Open a container, unless it is nested too deep. -/
def push? (frame : Frame) (place : Place) (frames : List Frame) : Option Machine :=
  if frames.length < maxDepth then some ⟨frame :: frames, place⟩ else none

/-- A value starts: a scalar is complete at once. -/
def begin? (frames : List Frame) : Lexeme → Option Machine
  | .scalar v => some (put v frames)
  | .openArray => push? (.array []) .item frames
  | .openObject => push? (.object [] "") .member frames
  | _ => none

def close? : List Frame → Lexeme → Option Machine
  | .array items :: rest, .closeArray => some (put (.array items) rest)
  | .object members _ :: rest, .closeObject => some (put (.object members) rest)
  | _, _ => none

def name? : List Frame → Lexeme → Option Machine
  | .object members _ :: rest, .scalar (.string name) => some ⟨.object members name :: rest, .colon⟩
  | _, _ => none

/-- After a comma the innermost container goes on. -/
def next? : List Frame → Option Machine
  | .array items :: rest => some ⟨.array items :: rest, .value⟩
  | .object members name :: rest => some ⟨.object members name :: rest, .name⟩
  | [] => none

def step? (m : Machine) (t : Lexeme) : Option Machine :=
  match m.place with
  | .value => begin? m.frames t
  | .item => begin? m.frames t <|> close? m.frames t
  | .name => name? m.frames t
  | .member => name? m.frames t <|> close? m.frames t
  | .colon =>
    match t with
    | .colon => some ⟨m.frames, .value⟩
    | _ => none
  | .separator =>
    match t with
    | .comma => next? m.frames
    | t => close? m.frames t
  | .complete _ => none

/-- The value that has been read, once it is complete. -/
def result? (m : Machine) : Option Json :=
  match m.place with
  | .complete v => some v
  | _ => none

end Machine

def read? (s : String) : Option Json := do
  let ts ← Lexeme.ofText? s.toList
  let m ← ts.foldlM Machine.step? ⟨[], .value⟩
  m.result?

end TypedSql.Json
