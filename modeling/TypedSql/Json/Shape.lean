import TypedSql.Json

/-!
# Values of the wrong shape

* `Json.Misfit`: why a JSON value does not describe what it should.
* `Json.record`: the members of a description, by name or by position.
-/

namespace TypedSql.Json

/-- Why a JSON value does not describe what it should: a member of the wrong type, a column that is none, or a value
that is not a scalar. -/
inductive Misfit where
  | shape
  | column (shown : Json)
  | value (shown : Json)

/-- The wording, where there is one. -/
def Misfit.message? : Misfit → Option String
  | shape => none
  | column shown => some ("Invalid column spec: " ++ shown.text)
  | value shown => some ("not a scalar value: " ++ shown.text)

def asString : Json → Except Misfit String
  | string s => .ok s
  | _ => .error .shape

def asArray : Json → Except Misfit (List Json)
  | array items => .ok items
  | _ => .error .shape

/-- Null as nothing, and all else as `read` takes it. -/
def asOption {α : Type} (read : Json → Except Misfit α) : Json → Except Misfit (Option α)
  | null => .ok none
  | j => (read j).map some

/-- A description is an object, whose unknown members are passed over, or an array of its parts in order, which may
stop early. `readers` gives the effect of each part; the first fault in the order of the text is reported. -/
def fold {σ : Type} (readers : List (String × (σ → Json → Except Misfit σ))) (start : σ) : Json → Except Misfit σ
  | object members =>
    members.foldlM
      (fun state (name, v) =>
        match readers.find? (·.1 == name) with
        | some (_, read) => read state v
        | none => .ok state)
      start
  | array items => do
    let state ← (readers.zip items).foldlM (fun state ((_, read), v) => read state v) start
    if items.length ≤ readers.length then .ok state else .error .shape
  | _ => .error .shape

end TypedSql.Json
