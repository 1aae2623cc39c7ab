import TypedSql.Column
import TypedSql.Condition
import TypedSql.DataMap

/-!
# Statements

* `Keyword`, `Options`, `Statement`: what a statement does and what it is made from.
* `Statement.build`: its text, with `?` for each value.
* `Statement.values`: the values, data before conditions.
* `Step`, `Statement.apply`: one step in the making of a statement.
-/

namespace TypedSql

/-- What a statement does. -/
inductive Keyword where
  | insert
  | select
  | update
  | delete
deriving DecidableEq

def Keyword.sql : Keyword → String
  | insert => "INSERT"
  | select => "SELECT"
  | update => "UPDATE"
  | delete => "DELETE"

/-- What a statement is made from: its table, the name of its database, the columns that it selects, the data that it
writes or filters by, and its conditions. -/
structure Options where
  table : String := ""
  database : String := "main"
  columns : List Column := []
  data : DataMap := {}
  conditions : List Condition := []

/-- A statement, and whether it may delete all rows. -/
structure Statement where
  keyword : Keyword
  options : Options
  deletesAll : Bool := false

namespace Statement

def new (keyword : Keyword) (table : String) : Statement :=
  ⟨keyword, { table }, false⟩

/-! ## Text -/

/-- The predicates of a WHERE clause: an equality for each field, then the conditions. -/
def predicates (fields : List String) (conditions : List Condition) : Except Error (List String) := do
  let built ← Condition.buildAll conditions
  return fields.map (· ++ " = ?") ++ built

/-- The clause of a list of predicates, unless it is empty. -/
def clauseOf? (predicates : List String) : Option String :=
  if predicates.isEmpty then none else some (" WHERE " ++ String.intercalate " AND " predicates)

/-- The WHERE clause for equality filters and conditions, if there are any. -/
def whereClause? (fields : List String) (conditions : List Condition) : Except Error (Option String) :=
  (predicates fields conditions).map clauseOf?

/-- The column list; without columns it is a star. -/
def columnList : List Column → Except Error String
  | [] => .ok "*"
  | columns => do
    let written ← columns.mapM Column.render
    return String.intercalate "," written

/-- The text of an insertion, which needs data and takes no conditions. -/
def buildInsert (o : Options) : Except Error String :=
  if !o.conditions.isEmpty then .error (.conditionsNotAllowed Keyword.insert.sql)
  else if o.data.isEmpty then .error (.emptyData Keyword.insert.sql)
  else
    .ok ("INSERT INTO " ++ o.table ++ " (" ++ String.intercalate "," o.data.fields ++ ") VALUES (" ++
      String.intercalate "," (o.data.fields.map fun _ => "?") ++ ")")

/-- The text of a selection; data are equality filters. -/
def buildSelect (o : Options) : Except Error String := do
  let columns ← columnList o.columns
  let clause ← whereClause? o.data.fields o.conditions
  return "SELECT " ++ columns ++ " FROM " ++ o.table ++ clause.getD ""

/-- The text of an update, which needs data; only conditions filter. -/
def buildUpdate (o : Options) : Except Error String :=
  if o.data.isEmpty then .error (.emptyData Keyword.update.sql)
  else do
    let clause ← whereClause? [] o.conditions
    return "UPDATE " ++ o.table ++ " SET " ++ String.intercalate ", " (o.data.fields.map (· ++ " = ?")) ++
      clause.getD ""

/-- The text of a deletion; data are equality filters. Without any filter it must be allowed. -/
def buildDelete (o : Options) (deletesAll : Bool) : Except Error String := do
  match ← whereClause? o.data.fields o.conditions with
  | some clause => return "DELETE FROM " ++ o.table ++ clause
  | none => if deletesAll then return "DELETE FROM " ++ o.table else throw (.unconditionedDelete o.table)

/-- The text of a statement, with `?` for each value. A blank table is the first fault to be reported. -/
def build (s : Statement) : Except Error String :=
  if Text.isBlankText s.options.table then .error .tableNotSet
  else
    match s.keyword with
    | .insert => buildInsert s.options
    | .select => buildSelect s.options
    | .update => buildUpdate s.options
    | .delete => buildDelete s.options s.deletesAll

/-- The values of a statement: those of the data, then those of the conditions. -/
def values (s : Statement) : Except Error (List Value) :=
  (Condition.valuesAll s.options.conditions).map (s.options.data.values ++ ·)

/-- Text and values, as they are sent to a database. -/
def prepare (s : Statement) : Except Error (String × List Value) := do
  let sql ← s.build
  let values ← s.values
  return (sql, values)

end Statement

/-! ## Steps -/

/-- One step in the making of a statement. -/
inductive Step where
  | database (name : String)
  | addColumn (c : Column)
  | setColumns (cs : List Column)
  | addData (entries : List (String × Value)) (filter : Option (List String))
  | setData (entries : List (String × Value)) (filter : Option (List String))
  | addJson (j : Json) (filter : Option (List String))
  | addSerialized (s : Source) (filter : Option (List String))
  | addCondition (c : Condition)
  | setConditions (cs : List Condition)
  | deletesAll (allowed : Bool)

namespace Statement

def withOptions (s : Statement) (o : Options) : Statement :=
  { s with options := o }

/-- One step; only a source without a JSON form makes it fail. -/
def apply (s : Statement) : Step → Except Error Statement
  | .database name => .ok (s.withOptions { s.options with database := name })
  | .addColumn c => .ok (s.withOptions { s.options with columns := s.options.columns ++ [c] })
  | .setColumns cs => .ok (s.withOptions { s.options with columns := cs })
  | .addData entries filter => .ok (s.withOptions { s.options with data := s.options.data.merge entries filter })
  | .setData entries filter => .ok (s.withOptions { s.options with data := DataMap.empty.merge entries filter })
  | .addJson j filter => .ok (s.withOptions { s.options with data := s.options.data.mergeJson j filter })
  | .addSerialized source filter =>
    (s.options.data.mergeSerialized source filter).map fun data => s.withOptions { s.options with data }
  | .addCondition c => .ok (s.withOptions { s.options with conditions := s.options.conditions ++ [c] })
  | .setConditions cs => .ok (s.withOptions { s.options with conditions := cs })
  | .deletesAll allowed => .ok { s with deletesAll := allowed }

/-- One step; a step that fails leaves the statement as it was. -/
def step (s : Statement) (t : Step) : Statement :=
  match s.apply t with
  | .ok s => s
  | .error _ => s

def run (s : Statement) (ts : List Step) : Statement :=
  ts.foldl step s

end Statement

end TypedSql
