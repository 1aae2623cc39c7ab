import TypedSql.Text.Case
import TypedSql.Text.Split

/-!
# Camel case

* `words`: the parts of a name between underscores.
* `camelCase`: the parts in lower case, all but the first with a capital, joined.
-/

namespace TypedSql.Text

/-- The parts of a name between underscores, without the empty ones. -/
def words (s : List Char) : List (List Char) :=
  (splitOn '_' s).filter (!·.isEmpty)

/-- A word with a capital at its start. -/
def capitalized : List Char → List Char
  | [] => []
  | c :: s => upperChar c ++ s

/-- One word more: the first stays in lower case. -/
def addWord (joined word : List Char) : List Char :=
  joined ++ if joined.isEmpty then lower word else capitalized (lower word)

/-- The words of a name in lower case, all but the first with a capital, joined. -/
def camelChars (s : List Char) : List Char :=
  (words s).foldl addWord []

/-- A name in camel case; a name of underscores only stays as it is. -/
def camelCase (name : String) : String :=
  let joined := camelChars name.toList
  if joined.isEmpty then name else String.ofList joined

end TypedSql.Text
