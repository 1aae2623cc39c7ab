import TypedSql.Condition.Reading
import TypedSql.Statement

/-!
# Statements described in JSON

* `Options.ofJson`: the options that a JSON value describes.
-/

namespace TypedSql

/-- The options that an object or a list describes; what it leaves out has its default. -/
def Options.ofJson : Json → Except Json.Misfit Options :=
  Json.fold
    [("table", fun o j => do return { o with table := ← Json.asString j }),
      ("database", fun o j => do return { o with database := ← Json.asString j }),
      ("columns", fun o j => do return { o with columns := ← (← Json.asArray j).mapM Column.ofJson }),
      ("data", fun o j => do return { o with data := ← DataMap.ofJson j }),
      ("conditions", fun o j => do return { o with conditions := ← (← Json.asArray j).mapM Condition.ofJson })]
    {}

end TypedSql
