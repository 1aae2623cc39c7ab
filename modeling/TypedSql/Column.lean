import TypedSql.Error
import TypedSql.Json.Shape
import TypedSql.Text.Blank
import TypedSql.Text.Quoted

/-!
# Columns of a projection

* `Column`: an expression, with or without an alias.
* `Column.render`: its text in a column list.
* `Column.display`: its quoted form, for messages.
* `Column.ofJson`: the column that a JSON value describes.
-/

namespace TypedSql

/-- An expression, with or without an alias. -/
inductive Column where
  | name (expression : String)
  | aliased (expression label : String)
deriving DecidableEq

namespace Column

/-- The quoted form of a column. -/
def display : Column → String
  | name expression => Text.quoted expression
  | aliased expression label =>
    "\x7bcolumn: " ++ Text.quoted expression ++ ", alias: " ++ Text.quoted label ++ "\x7d"

/-- Whether expression and alias are more than blanks. -/
def isWritable : Column → Bool
  | name expression => !Text.isBlankText expression
  | aliased expression label => !Text.isBlankText expression && !Text.isBlankText label

def sql : Column → String
  | name expression => expression
  | aliased expression label => expression ++ " AS " ++ label

/-- The written column, unless a part of it is blank. -/
def render (c : Column) : Except Error String :=
  if c.isWritable then .ok c.sql else .error (.invalidColumn c.display)

/-- A string, or an object with the strings `column` and `alias`. -/
def ofJson? : Json → Option Column
  | .string expression => some (name expression)
  | .object members => do
    let expression ← (Pairs.get? "column" members).bind Json.string?
    let label ← (Pairs.get? "alias" members).bind Json.string?
    return aliased expression label
  | _ => none

def ofJson (j : Json) : Except Json.Misfit Column :=
  match ofJson? j with
  | some c => .ok c
  | none => .error (.column j)

end Column

end TypedSql
