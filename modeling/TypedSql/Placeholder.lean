import TypedSql.Text.Alphanumeric

/-!
# Placeholders

A statement marks the places of its values with `?`; a server wants them numbered, `$1`, `$2` and so on. Question marks
in quotes, comments and dollar quotes stand for themselves.

* `Segment`: a placeholder, a protected region, or any other character.
* `segments`: a text cut into segments from left to right.
* `flatMap_chars_segments`: nothing is lost.
* `numbered`: the text with its placeholders numbered.
-/

namespace TypedSql.Placeholder

/-- A piece of a SQL text. Protected pieces hold their delimiters; the last piece of a text may lack its closing
one. -/
inductive Segment where
  | slot
  | quoted (text : List Char)
  | lineComment (text : List Char)
  | blockComment (text : List Char)
  | dollarQuoted (text : List Char)
  | other (c : Char)
deriving DecidableEq

def Segment.chars : Segment → List Char
  | slot => ['?']
  | quoted text | lineComment text | blockComment text | dollarQuoted text => text
  | other c => [c]

/-! ## Cutting -/

/-- A text through the first occurrence of `stop`, and what follows. Without one, all of it and nothing. -/
def through (stop : List Char) : List Char → List Char × List Char
  | [] => ([], [])
  | c :: s =>
    if stop.isPrefixOf (c :: s) then (stop, (c :: s).drop stop.length)
    else
      let (before, after) := through stop s
      (c :: before, after)

/-- A tag of a dollar quote: letters, numerals and underscores, not starting with an ASCII digit. -/
def isTag (tag : List Char) : Bool :=
  tag.all (fun c => Text.isAlphanumeric c || c == '_') && !(tag.head?.any Char.isDigit)

/-- The tag between a dollar that has been read and the next one, and what follows. -/
def tag? (s : List Char) : Option (List Char × List Char) :=
  match s.dropWhile (· != '$') with
  | [] => none
  | _ :: rest => if isTag (s.takeWhile (· != '$')) then some (s.takeWhile (· != '$'), rest) else none

/-- The opening and closing mark of a dollar quote. -/
def delimiter (tag : List Char) : List Char :=
  '$' :: tag ++ ['$']

/-- The first segment of a text that starts with `c`, and what follows. -/
def next (c : Char) (s : List Char) : Segment × List Char :=
  if c = '?' then (.slot, s)
  else if c = '\x27' ∨ c = '"' then
    let (body, rest) := through [c] s
    (.quoted (c :: body), rest)
  else if c = '-' ∧ s.head? = some '-' then
    let (body, rest) := through ['\n'] s
    (.lineComment (c :: body), rest)
  else if c = '/' ∧ s.head? = some '*' then
    let (body, rest) := through ['*', '/'] s.tail
    (.blockComment (c :: '*' :: body), rest)
  else if c = '$' then
    match tag? s with
    | some (tag, body) =>
      let (body, rest) := through (delimiter tag) body
      (.dollarQuoted (delimiter tag ++ body), rest)
    | none => (.other c, s)
  else (.other c, s)

theorem through_append (stop s : List Char) : (through stop s).1 ++ (through stop s).2 = s := by
  induction s with
  | nil => rfl
  | cons c s ih =>
    rw [through]
    split
    · next h =>
      obtain ⟨rest, h⟩ := List.isPrefixOf_iff_prefix.1 h
      rw [← h, List.drop_left]
    · simpa using ih

theorem tag?_append {s tag body : List Char} (h : tag? s = some (tag, body)) : tag ++ '$' :: body = s := by
  rw [tag?] at h
  split at h
  · cases h
  · next d rest hd =>
    split at h
    · cases h
      have hne := List.head?_dropWhile_not (· != '$') s
      rw [hd] at hne
      obtain rfl : d = '$' := by simpa using hne
      rw [← hd, List.takeWhile_append_dropWhile]
    · cases h

theorem next_append (c : Char) (s : List Char) : (next c s).1.chars ++ (next c s).2 = c :: s := by
  rw [next]
  split
  · next h => simp [Segment.chars, h]
  split
  · simp [Segment.chars, through_append]
  split
  · simp [Segment.chars, through_append]
  split
  · next h =>
    obtain ⟨t, rfl⟩ : ∃ t, s = '*' :: t := by
      cases s with
      | nil => simp at h
      | cons d t => simp only [List.head?_cons, Option.some.injEq] at h; exact ⟨t, by rw [h.2]⟩
    simp [Segment.chars, through_append]
  split
  · next h =>
    split
    · next tag body ht =>
      simp [Segment.chars, delimiter, through_append, tag?_append ht, h]
    · simp [Segment.chars]
  · simp [Segment.chars]

theorem chars_next_ne_nil (c : Char) (s : List Char) : (next c s).1.chars ≠ [] := by
  rw [next]
  split
  · simp [Segment.chars]
  split
  · simp [Segment.chars]
  split
  · simp [Segment.chars]
  split
  · simp [Segment.chars]
  split
  · split <;> simp [Segment.chars, delimiter]
  · simp [Segment.chars]

theorem length_next_lt (c : Char) (s : List Char) : (next c s).2.length < (c :: s).length := by
  have h := congrArg List.length (next_append c s)
  have := List.length_pos_iff.2 (chars_next_ne_nil c s)
  rw [List.length_append] at h
  omega

/-- A text cut into segments from left to right. -/
def segments : List Char → List Segment
  | [] => []
  | c :: s => (next c s).1 :: segments (next c s).2
termination_by s => s.length
decreasing_by exact length_next_lt c s

theorem flatMap_chars_segments (s : List Char) : (segments s).flatMap Segment.chars = s := by
  fun_induction segments s with
  | case1 => rfl
  | case2 c s ih => rw [List.flatMap_cons, ih, next_append]

/-! ## Numbering -/

def slotCount (gs : List Segment) : Nat :=
  gs.count .slot

/-- The written segments, the slots numbered from `n` on. The numbers have no bound; a count in thirty-two signed bits
gives the same ones to fewer than `2 ^ 31` placeholders. -/
def render (n : Nat) : List Segment → List Char
  | [] => []
  | .slot :: gs => '$' :: Nat.toDigits 10 n ++ render (n + 1) gs
  | g :: gs => g.chars ++ render n gs

/-- The text with its placeholders numbered from one. -/
def numbered (sql : String) : String :=
  String.ofList (render 1 (segments sql.toList))

end TypedSql.Placeholder
