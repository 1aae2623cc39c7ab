/-!
# Parts between separators

* `splitOn`: the parts of a text between the occurrences of a character.
* `intercalate_splitOn`: nothing is lost.
-/

namespace TypedSql.Text

/-- The part of a text before the first separator, and the parts after it. -/
def splitFrom (separator : Char) : List Char → List Char × List (List Char)
  | [] => ([], [])
  | c :: s =>
    let (part, rest) := splitFrom separator s
    if c = separator then ([], part :: rest) else (c :: part, rest)

/-- The parts of a text between separators, one more than there are separators. -/
def splitOn (separator : Char) (s : List Char) : List (List Char) :=
  (splitFrom separator s).1 :: (splitFrom separator s).2

theorem splitOn_separator (separator : Char) (s : List Char) :
    splitOn separator (separator :: s) = [] :: splitOn separator s := by
  simp [splitOn, splitFrom]

theorem splitOn_of_ne {separator c : Char} (h : c ≠ separator) (s : List Char) :
    splitOn separator (c :: s) = (c :: (splitFrom separator s).1) :: (splitFrom separator s).2 := by
  simp [splitOn, splitFrom, h]

theorem intercalate_splitOn (separator : Char) (s : List Char) :
    [separator].intercalate (splitOn separator s) = s := by
  induction s with
  | nil => rfl
  | cons c s ih =>
    by_cases h : c = separator
    · rw [h, splitOn_separator]
      rw [splitOn] at ih ⊢
      rw [List.intercalate_cons_cons, ih]
      rfl
    · rw [splitOn_of_ne h]
      rw [splitOn] at ih
      cases hr : (splitFrom separator s).2 with
      | nil => simpa [hr] using ih
      | cons part rest =>
        rw [hr, List.intercalate_cons_cons] at ih
        rw [List.intercalate_cons_cons, List.cons_append, List.cons_append, ih]

end TypedSql.Text
