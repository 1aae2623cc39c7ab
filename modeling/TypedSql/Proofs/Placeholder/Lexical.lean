import TypedSql.Placeholder

/-!
# The lexical structure of PostgreSQL

* `Token` : a question mark, a constant, a name, a comment, or another element of a text;
* `token` : the first token of a text, which depends on the `Context` before it, as far as that tells how a quote is read;
* `tokens` : a text read from left to right;
* `flatMap_chars_tokens` : nothing is lost.

Backslashes escape in constants that follow an `E` only. Block comments nest. A dollar within a word opens no constant.
-/

namespace TypedSql.Lexical

open Placeholder (through delimiter through_append)

/-- An element of a text. Constants, quoted names and comments hold their delimiters; the last token of a text may lack
its closing one. -/
inductive Token where
  | slot
  | constant (text : List Char)
  | escapeConstant (text : List Char)
  | quotedName (text : List Char)
  | lineComment (text : List Char)
  | blockComment (text : List Char)
  | dollarConstant (tag body : List Char)
  | parameter (text : List Char)
  | word (text : List Char)
  | number (text : List Char)
  | other (c : Char)
deriving DecidableEq

/-- The characters of a token. -/
def Token.chars : Token → List Char
  | slot => ['?']
  | constant text | escapeConstant text | quotedName text | lineComment text | blockComment text | parameter text
  | word text | number text => text
  | dollarConstant tag body => delimiter tag ++ body
  | other c => [c]

/-- What stands before a token: a word `E`, an escape constant in the same line or in a line above, or nothing that
concerns a quote. -/
inductive Context where
  | fresh
  | mark
  | constant
  | constantAbove
deriving DecidableEq

namespace Context

/-- Whether a quote opens an escape constant, or continues one. -/
def escapes : Context → Bool
  | mark | constantAbove => true
  | fresh | constant => false

/-- The context after a line break. -/
def newline : Context → Context
  | constant | constantAbove => constantAbove
  | fresh | mark => fresh

/-- The context after a blank. -/
def blank : Context → Context
  | mark => fresh
  | k => k

/-- The context after a character that belongs to no longer token. -/
def after (k : Context) (c : Char) : Context :=
  if c = '\n' ∨ c = '\r' then k.newline
  else if c = ' ' ∨ c = '\t' ∨ c = '\x0b' ∨ c = '\x0c' then k.blank
  else fresh

end Context

/-! ## Characters -/

/-- Letters, underscores, and all that is not ASCII. -/
def startsWord (c : Char) : Bool :=
  c.isAlpha || c == '_' || 128 ≤ c.val

/-- What may stand in the tag of a dollar quote. -/
def continuesTag (c : Char) : Bool :=
  startsWord c || c.isDigit

/-- What may stand in a word. -/
def continuesWord (c : Char) : Bool :=
  continuesTag c || c == '$'

/-! ## Regions -/

/-- The rest of a quoted region, through its closing mark. A doubled mark does not close it; with escapes, neither does
a mark behind a backslash. -/
def literal (q : Char) (escapes : Bool) : List Char → List Char × List Char
  | [] => ([], [])
  | [c] => ([c], [])
  | c :: d :: s =>
    if escapes && c == '\\' || c == q && d == q then
      (c :: d :: (literal q escapes s).1, (literal q escapes s).2)
    else if c = q then ([c], d :: s)
    else (c :: (literal q escapes (d :: s)).1, (literal q escapes (d :: s)).2)

/-- The rest of a line, with its end. -/
def line : List Char → List Char × List Char
  | [] => ([], [])
  | '\r' :: '\n' :: s => (['\r', '\n'], s)
  | c :: s => if c = '\n' ∨ c = '\r' then ([c], s) else (c :: (line s).1, (line s).2)

/-- The rest of a block comment with `depth` comments around it. -/
def comment (depth : Nat) : List Char → List Char × List Char
  | [] => ([], [])
  | [c] => ([c], [])
  | c :: d :: s =>
    if c = '*' ∧ d = '/' then
      match depth with
      | 0 => ([c, d], s)
      | depth + 1 => (c :: d :: (comment depth s).1, (comment depth s).2)
    else if c = '/' ∧ d = '*' then (c :: d :: (comment (depth + 1) s).1, (comment (depth + 1) s).2)
    else (c :: (comment depth (d :: s)).1, (comment depth (d :: s)).2)

/-- The tag of a dollar quote whose first dollar has been read, and what follows the second one. -/
def opening? (s : List Char) : Option (List Char × List Char) :=
  if (s.head?.any Char.isDigit) then none
  else
    match s.dropWhile continuesTag with
    | '$' :: body => some (s.takeWhile continuesTag, body)
    | _ => none

/-- The point of a number and what follows it, unless it is the first of two points. -/
def fraction : List Char → List Char × List Char
  | '.' :: s => if s.head? = some '.' then ([], '.' :: s) else ('.' :: s.takeWhile continuesTag, s.dropWhile continuesTag)
  | s => ([], s)

/-! ## Tokens -/

/-- The first token of a text that starts with `c`, the context after it, and what follows. -/
def token (k : Context) (c : Char) (s : List Char) : Token × Context × List Char :=
  if c = '?' then (.slot, .fresh, s)
  else if c = '\x27' then
    if k.escapes then (.escapeConstant (c :: (literal c true s).1), .constant, (literal c true s).2)
    else (.constant (c :: (literal c false s).1), .fresh, (literal c false s).2)
  else if c = '"' then (.quotedName (c :: (literal c false s).1), .fresh, (literal c false s).2)
  else if c = '-' ∧ s.head? = some '-' then (.lineComment (c :: (line s).1), k.newline, (line s).2)
  else if c = '/' ∧ s.head? = some '*' then
    (.blockComment (c :: '*' :: (comment 0 s.tail).1), .fresh, (comment 0 s.tail).2)
  else if c = '$' then
    match opening? s with
    | some (tag, body) =>
      (.dollarConstant tag (through (delimiter tag) body).1, .fresh, (through (delimiter tag) body).2)
    | none => (.parameter (c :: s.takeWhile Char.isDigit), .fresh, s.dropWhile Char.isDigit)
  else if startsWord c then
    let text := c :: s.takeWhile continuesWord
    (.word text, if text = ['e'] ∨ text = ['E'] then .mark else .fresh, s.dropWhile continuesWord)
  else if c.isDigit then
    (.number (c :: s.takeWhile continuesTag ++ (fraction (s.dropWhile continuesTag)).1), .fresh,
      (fraction (s.dropWhile continuesTag)).2)
  else if c = '.' ∧ s.head?.any Char.isDigit then
    (.number (c :: s.takeWhile continuesTag), .fresh, s.dropWhile continuesTag)
  else (.other c, k.after c, s)

theorem literal_append (q : Char) (escapes : Bool) (s : List Char) :
    (literal q escapes s).1 ++ (literal q escapes s).2 = s := by
  fun_induction literal q escapes s <;> simp_all

theorem line_append (s : List Char) : (line s).1 ++ (line s).2 = s := by
  fun_induction line s <;> simp_all

theorem comment_append (depth : Nat) (s : List Char) : (comment depth s).1 ++ (comment depth s).2 = s := by
  fun_induction comment depth s <;> simp_all

theorem fraction_append (s : List Char) : (fraction s).1 ++ (fraction s).2 = s := by
  unfold fraction
  split
  · split <;> simp [List.takeWhile_append_dropWhile]
  · rfl

theorem opening?_eq_some {s tag body : List Char} (h : opening? s = some (tag, body)) :
    tag ++ '$' :: body = s ∧ (∀ c ∈ tag, continuesTag c = true) ∧ ¬ tag.head?.any Char.isDigit := by
  unfold opening? at h
  split at h
  · cases h
  · next hd =>
    split at h
    · next hs =>
      cases h
      have happ := List.takeWhile_append_dropWhile (p := continuesTag) (l := s)
      refine ⟨by rw [← hs, happ], List.all_eq_true.1 List.all_takeWhile, ?_⟩
      rw [← happ] at hd
      cases ht : s.takeWhile continuesTag with
      | nil => simp
      | cons c t =>
        rw [ht] at hd
        exact hd
    · cases h

theorem token_append (k : Context) (c : Char) (s : List Char) :
    (token k c s).1.chars ++ (token k c s).2.2 = c :: s := by
  unfold token
  split
  · next h => simp [Token.chars, h]
  split
  · split <;> simp [Token.chars, literal_append]
  split
  · simp [Token.chars, literal_append]
  split
  · simp [Token.chars, line_append]
  split
  · next h =>
    obtain ⟨t, rfl⟩ : ∃ t, s = '*' :: t := List.head?_eq_some_iff.1 h.2
    simp [Token.chars, comment_append]
  split
  · next h =>
    split
    · next tag body ho =>
      simp [Token.chars, delimiter, through_append, (opening?_eq_some ho).1, h]
    · simp [Token.chars, List.takeWhile_append_dropWhile]
  split
  · simp [Token.chars, List.takeWhile_append_dropWhile]
  split
  · simp [Token.chars, fraction_append, List.takeWhile_append_dropWhile]
  split
  · simp [Token.chars, List.takeWhile_append_dropWhile]
  · simp [Token.chars]

theorem length_token_lt (k : Context) (c : Char) (s : List Char) : (token k c s).2.2.length < (c :: s).length := by
  have hne : (token k c s).1.chars ≠ [] := by
    unfold token
    repeat' split
    all_goals simp [Token.chars, delimiter]
  have h := congrArg List.length (token_append k c s)
  have := List.length_pos_iff.2 hne
  rw [List.length_append] at h
  omega

/-- A text read from left to right. -/
def tokens (k : Context) : List Char → List Token
  | [] => []
  | c :: s => (token k c s).1 :: tokens (token k c s).2.1 (token k c s).2.2
termination_by s => s.length
decreasing_by exact length_token_lt k c s

theorem flatMap_chars_tokens (k : Context) (s : List Char) : (tokens k s).flatMap Token.chars = s := by
  fun_induction tokens k s with
  | case1 => rfl
  | case2 k c s ih => rw [List.flatMap_cons, ih, token_append]

end TypedSql.Lexical
