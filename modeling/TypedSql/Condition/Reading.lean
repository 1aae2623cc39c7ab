import TypedSql.Condition
import TypedSql.Json.Shape

/-!
# Conditions described in JSON

* `Operator.ofJson`, `Comparison.ofJson`, `Condition.ofJson`: what a JSON value describes.
-/

namespace TypedSql

open Json (Misfit)

/-- The name of an operator in descriptions. -/
def Operator.key : Operator → String
  | equals => "equals"
  | greater => "greater"
  | less => "less"
  | greaterOrEquals => "greater_or_equals"
  | lessOrEquals => "less_or_equals"
  | between => "between"

def Operator.ofKey? (s : String) : Option Operator :=
  [equals, greater, less, greaterOrEquals, lessOrEquals, between].find? (·.key == s)

/-- An operator by its name, alone or as the only member of an object, which is null. -/
def Operator.ofJson : Json → Except Misfit Operator
  | .string s | .object [(s, .null)] =>
    match ofKey? s with
    | some op => .ok op
    | none => .error .shape
  | _ => .error .shape

def Value.ofJson (j : Json) : Except Misfit Value :=
  match ofJson? j with
  | some v => .ok v
  | none => .error (.value j)

/-- The parts of a comparison; null leaves a part unset. -/
def Comparison.ofJson : Json → Except Misfit Comparison :=
  Json.fold
    [("field", fun c j => do return { c with field := ← Json.asOption Json.asString j }),
      ("op", fun c j => do return { c with operator := ← Json.asOption Operator.ofJson j }),
      ("value", fun c j => do return { c with value := ← Json.asOption Value.ofJson j }),
      ("value2", fun c j => do return { c with value2 := ← Json.asOption Value.ofJson j })]
    {}

namespace Condition

mutual
/-- An object with one member: `compare` with a comparison, or `or` with a list of conditions. -/
def ofJson : Json → Except Misfit Condition
  | .object [(name, v)] =>
    if name = "compare" then (Comparison.ofJson v).map compare
    else if name = "or" then ofAlternatives v
    else .error .shape
  | _ => .error .shape

/-- The alternatives of a disjunction. -/
def ofAlternatives : Json → Except Misfit Condition
  | .array items => (ofItems items).map anyOf
  | _ => .error .shape

def ofItems : List Json → Except Misfit (List Condition)
  | [] => .ok []
  | j :: js => do
    let c ← ofJson j
    let cs ← ofItems js
    return c :: cs
end

end Condition

end TypedSql
