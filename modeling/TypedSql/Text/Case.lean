import TypedSql.Text.Ranges
import TypedSql.Text.CaseTable

/-!
# Upper and lower case

The full case mappings of Unicode: one character may become several, and a sigma that ends a word has a
lower-case form of its own.

* `lowerChar`, `upperChar`: the forms of one character, without its surroundings.
* `lower`: the lower-case form of a text.
-/

namespace TypedSql.Text

/-- Whether a run maps the code point `n`. -/
def CaseRun.covers (r : CaseRun) (n : Nat) : Bool :=
  r.first ≤ n && n ≤ r.last && (n - r.first) % r.step == 0

/-- The form of `c` that runs and sequences give, or `c` itself. -/
def mapCase (runs : List CaseRun) (sequences : List (Nat × List Nat)) (c : Char) : List Char :=
  let n := c.val.toNat
  match sequences.find? (·.1 == n) with
  | some (_, form) => form.map Char.ofNat
  | none =>
    match runs.find? (·.covers n) with
    | some r => [Char.ofNat (n + r.offset).toNat]
    | none => [c]

/-- The lower-case form of a character that stands alone. -/
def lowerChar (c : Char) : List Char :=
  if c.val < 128 then [c.toLower] else mapCase lowerRuns lowerSequences c

def upperChar (c : Char) : List Char :=
  if c.val < 128 then [c.toUpper] else mapCase upperRuns upperSequences c

/-- A character that has, or is, a case form. -/
def isCased (c : Char) : Bool :=
  Ranges.contains casedBounds c.val.toNat

/-- A character that is passed over in the search for a cased neighbour. -/
def isCaseIgnorable (c : Char) : Bool :=
  Ranges.contains caseIgnorableBounds c.val.toNat

/-- Whether the first character that is not passed over is cased. -/
def meetsCased (s : List Char) : Bool :=
  match s.dropWhile isCaseIgnorable with
  | [] => false
  | c :: _ => isCased c

/-- The lower-case forms of the characters of a text, given those `before` it, nearest first. A capital sigma
that follows a cased character and precedes none becomes a final sigma. -/
def lowerAfter (before : List Char) : List Char → List Char
  | [] => []
  | c :: rest =>
    (if c = 'Σ' then [if meetsCased before && !meetsCased rest then 'ς' else 'σ'] else lowerChar c) ++
      lowerAfter (c :: before) rest

def lower (s : List Char) : List Char :=
  lowerAfter [] s

theorem lowerChar_of_ascii {c : Char} (h : c.val < 128) : lowerChar c = [c.toLower] := by
  simp [lowerChar, h]

theorem upperChar_of_ascii {c : Char} (h : c.val < 128) : upperChar c = [c.toUpper] := by
  simp [upperChar, h]

end TypedSql.Text
