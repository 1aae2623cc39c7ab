import TypedSql.Error
import TypedSql.Value

/-!
# Conditions

* `Operator`, `Comparison`: one comparison of a field, which may be filled in bit by bit.
* `Condition`: a comparison, or a disjunction of conditions.
* `Condition.build`: the text of a condition, with `?` for each value.
* `Condition.values`: the values, in the order of their placeholders.
* `Condition.also`: one alternative more.
-/

namespace TypedSql

/-- How a field is compared. -/
inductive Operator where
  | equals
  | greater
  | less
  | greaterOrEquals
  | lessOrEquals
  | between
deriving DecidableEq

def Operator.sql : Operator → String
  | equals => "="
  | greater => ">"
  | less => "<"
  | greaterOrEquals => ">="
  | lessOrEquals => "<="
  | between => "BETWEEN"

/-- A comparison of one field. All parts may be absent; null counts as absent. -/
structure Comparison where
  field : Option String := none
  operator : Option Operator := none
  value : Option Value := none
  value2 : Option Value := none
deriving DecidableEq

namespace Comparison

/-- A comparison of `field` with `value`. -/
def of (operator : Operator) (field : String) (value : Value) : Comparison :=
  ⟨some field, some operator, some value, none⟩

/-- A comparison of `field` with the range from `low` to `high`. -/
def range (field : String) (low high : Value) : Comparison :=
  ⟨some field, some .between, some low, some high⟩

/-- A comparison with all the parts that its operator needs. -/
structure Complete where
  field : String
  operator : Operator
  value : Value
  value2 : Option Value
deriving DecidableEq

/-- A value that is neither absent nor null. -/
def given? : Option Value → Option Value
  | some v => if v.isNull then none else some v
  | none => none

/-- The field, unless it is absent or empty. -/
def field? (c : Comparison) : Option String :=
  c.field.filter (· ≠ "")

/-- The parts of a comparison. Missing ones are reported in the order field, value, operator, second value. -/
def complete (c : Comparison) : Except Error Complete :=
  match c.field? with
  | none => .error .missingField
  | some field =>
    match given? c.value with
    | none => .error (.missingValue field)
    | some value =>
      match c.operator with
      | none => .error (.missingOperator field)
      | some .between =>
        match given? c.value2 with
        | none => .error (.missingSecondValue field)
        | some value2 => .ok ⟨field, .between, value, some value2⟩
      | some operator => .ok ⟨field, operator, value, none⟩

def Complete.sql (c : Complete) : String :=
  match c.operator with
  | .between => c.field ++ " BETWEEN ? AND ?"
  | operator => c.field ++ " " ++ operator.sql ++ " ?"

/-- The values of a comparison, the lower end of a range first. -/
def Complete.values (c : Complete) : List Value :=
  c.value :: c.value2.toList

def build (c : Comparison) : Except Error String :=
  c.complete.map Complete.sql

def values (c : Comparison) : Except Error (List Value) :=
  c.complete.map Complete.values

end Comparison

/-- A comparison, or a disjunction of conditions. -/
inductive Condition where
  | compare (c : Comparison)
  | anyOf (children : List Condition)

namespace Condition

/-- A comparison of `field` with `value`. -/
def of (operator : Operator) (field : String) (value : Value) : Condition :=
  compare (.of operator field value)

/-- A comparison of `field` with the range from `low` to `high`. -/
def range (field : String) (low high : Value) : Condition :=
  compare (.range field low high)

/-- One alternative more: a comparison becomes the first of two. -/
def also : Condition → Condition → Condition
  | anyOf children, d => anyOf (children ++ [d])
  | compare c, d => anyOf [compare c, d]

mutual
/-- The text of a condition; a disjunction stands in parentheses. The first fault from the left is reported. -/
def build : Condition → Except Error String
  | compare c => c.build
  | anyOf [] => .error .emptyOr
  | anyOf (c :: cs) => do
    let first ← build c
    let rest ← buildAll cs
    return "(" ++ String.intercalate " OR " (first :: rest) ++ ")"

def buildAll : List Condition → Except Error (List String)
  | [] => .ok []
  | c :: cs => do
    let first ← build c
    let rest ← buildAll cs
    return first :: rest
end

mutual
/-- The values of a condition, in the order of their placeholders. -/
def values : Condition → Except Error (List Value)
  | compare c => c.values
  | anyOf [] => .error .emptyOr
  | anyOf (c :: cs) => do
    let first ← values c
    let rest ← valuesAll cs
    return first ++ rest

def valuesAll : List Condition → Except Error (List Value)
  | [] => .ok []
  | c :: cs => do
    let first ← values c
    let rest ← valuesAll cs
    return first ++ rest
end

end Condition

end TypedSql
