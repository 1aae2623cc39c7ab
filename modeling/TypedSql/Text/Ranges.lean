/-!
# Sets of code points by their boundaries

A set of code points is written as the ascending list of the points where membership changes: the first
bound opens a range, the second closes it, and so on.

* `Ranges.contains`: membership.
* `Ranges.contains_of_lt`: nothing below the first bound is a member.
-/

namespace TypedSql.Text

/-- Whether `n` lies in a range that has been opened and not yet closed. -/
def Ranges.contains : List Nat → Nat → Bool
  | [], _ => false
  | [first], n => first ≤ n
  | first :: stop :: rest, n =>
    if n < first then false else if n < stop then true else Ranges.contains rest n

theorem Ranges.contains_of_lt {first n : Nat} (rest : List Nat) (h : n < first) :
    Ranges.contains (first :: rest) n = false := by
  cases rest <;> simp [Ranges.contains, h]

end TypedSql.Text
