import TypedSql.Config

/-!
# References to variables

* `Config.Piece`: a character that stands for itself, or a reference.
* `Config.pieces`: a text cut into pieces from left to right.
* `Config.flatMap_chars_pieces`: nothing is lost.
* `Config.expand`: the text with each reference replaced; what replaces it is not cut again.
-/

namespace TypedSql.Config

/-- A character that stands for itself, a reference to a variable, or one that is never closed. -/
inductive Piece where
  | literal (c : Char)
  | reference (key : List Char)
  | unclosed (key : List Char)
deriving DecidableEq

def Piece.chars : Piece → List Char
  | literal c => [c]
  | reference key => ['$', '\x7b'] ++ key ++ ['\x7d']
  | unclosed key => ['$', '\x7b'] ++ key

/-! ## Cutting -/

/-- A reference whose dollar and brace have been read, and what follows. -/
def reference (s : List Char) : Piece × List Char :=
  match s.dropWhile (· != '\x7d') with
  | [] => (.unclosed s, [])
  | _ :: rest => (.reference (s.takeWhile (· != '\x7d')), rest)

/-- The first piece of a text that starts with `c`, and what follows. -/
def next (c : Char) (s : List Char) : Piece × List Char :=
  if c = '$' ∧ s.head? = some '\x7b' then reference s.tail else (.literal c, s)

theorem reference_append (s : List Char) :
    (reference s).1.chars ++ (reference s).2 = '$' :: '\x7b' :: s := by
  rw [reference]
  split
  · simp [Piece.chars]
  · next d rest hd =>
    have hne := List.head?_dropWhile_not (· != '\x7d') s
    rw [hd] at hne
    obtain rfl : d = '\x7d' := by simpa using hne
    simp only [Piece.chars, List.append_assoc, List.cons_append, List.nil_append, List.cons.injEq, true_and]
    rw [← hd, List.takeWhile_append_dropWhile]

theorem next_append (c : Char) (s : List Char) : (next c s).1.chars ++ (next c s).2 = c :: s := by
  rw [next]
  split
  · next h =>
    obtain ⟨t, rfl⟩ : ∃ t, s = '\x7b' :: t := by
      cases s with
      | nil => simp at h
      | cons d t => exact ⟨t, by simpa using h.2⟩
    rw [List.tail_cons, reference_append, h.1]
  · rfl

theorem chars_ne_nil (p : Piece) : p.chars ≠ [] := by
  cases p <;> simp [Piece.chars]

theorem length_next_lt (c : Char) (s : List Char) : (next c s).2.length < (c :: s).length := by
  have h := congrArg List.length (next_append c s)
  have := List.length_pos_iff.2 (chars_ne_nil (next c s).1)
  rw [List.length_append] at h
  omega

/-- A text cut into pieces from left to right. -/
def pieces : List Char → List Piece
  | [] => []
  | c :: s => (next c s).1 :: pieces (next c s).2
termination_by s => s.length
decreasing_by exact length_next_lt c s

theorem flatMap_chars_pieces (s : List Char) : (pieces s).flatMap Piece.chars = s := by
  fun_induction pieces s with
  | case1 => rfl
  | case2 c s ih => rw [List.flatMap_cons, ih, next_append]

/-! ## Replacing -/

def Piece.expansion (lookup : Lookup) : Piece → Except Fault (List Char)
  | literal c => .ok [c]
  | unclosed key => .error (.unterminated (String.ofList key))
  | reference [] => .error .emptyKey
  | reference key =>
    match lookup (String.ofList key) with
    | some value => .ok value.toList
    | none => .error (.unknownKey (String.ofList key))

/-- A text with each reference replaced; the first that cannot be replaced is reported. -/
def expand (lookup : Lookup) (s : String) : Except Fault String := do
  let parts ← (pieces s.toList).mapM (Piece.expansion lookup)
  return String.ofList parts.flatten

end TypedSql.Config
