import TypedSql.Json.Lexeme

/-!
# Lexemes of TOML texts

* `Toml.Lexeme`: punctuation, a blank, the end of a line, a quoted text or a word.
* `Toml.Lexeme.body?`: the characters of a quoted text, its escapes resolved.
* `Toml.Lexeme.next?`: the lexeme at the start of a text, and the rest.
* `Toml.Lexeme.ofText?`: all lexemes of a text.

A comment is a blank. A word is a name, or a number or a date without its points.
-/

namespace TypedSql.Toml

/-- Punctuation, a blank, the end of a line, a quoted text or a word. -/
inductive Lexeme where
  | openBracket
  | closeBracket
  | openBrace
  | closeBrace
  | comma
  | dot
  | equals
  | blank
  | newline
  | quoted (multiline : Bool) (s : String)
  | word (s : List Char)

namespace Lexeme

open Json.Lexeme (hexValue? consTo)

/-- A tab, or a character that is no control. -/
def isPlain (c : Char) : Bool :=
  c == '\t' || (32 ≤ c.toNat && c.toNat != 127)

def isBlank (c : Char) : Bool :=
  c == ' ' || c == '\t'

def isWordChar (c : Char) : Bool :=
  isPlain c && !isBlank c &&
    ['[', ']', '\x7b', '\x7d', ',', '.', '=', '#', '"', '\x27'].all (· != c)

/-- Whether the end of a line comes next. -/
def atLineEnd : List Char → Bool
  | '\n' :: _ => true
  | '\r' :: '\n' :: _ => true
  | _ => false

/-! ## Quoted texts -/

/-- The character after a backslash, except in front of a code point. -/
def simpleEscape? (c : Char) : Option Char :=
  if c = '"' ∨ c = '\\' then some c
  else if c = 'b' then some '\x08'
  else if c = 'e' then some '\x1b'
  else if c = 'f' then some '\x0c'
  else if c = 'n' then some '\n'
  else if c = 'r' then some '\r'
  else if c = 't' then some '\t'
  else none

/-- How many digits of a code point follow a letter. -/
def codeLength? (c : Char) : Option Nat :=
  if c = 'x' then some 2
  else if c = 'u' then some 4
  else if c = 'U' then some 8
  else none

/-- Where in a quoted text a character stands: by itself, after a backslash, in a code point that lacks some digits, or
in the white space that a backslash at the end of a line leaves out. -/
inductive Place where
  | plain
  | escape
  | code (missing value : Nat)
  | folded (pastLine : Bool)

/-- The place after a character of white space that is left out: a line must end before other characters follow. -/
def placeAfterFolded? (pastLine : Bool) (c : Char) (s : List Char) : Option Place :=
  let pastLine := pastLine || c == '\n'
  if c == '\r' && s.head? != some '\n' then none
  else if s.head?.any isBlank || atLineEnd s then some (.folded pastLine)
  else if pastLine then some .plain
  else none

/-- The place after a character behind a backslash, and the character that the two stand for. -/
def placeAfterEscape? (multiline : Bool) (c : Char) (s : List Char) : Option (Option Char × Place) :=
  match codeLength? c, simpleEscape? c with
  | some n, _ => some (none, .code n 0)
  | none, some c => some (some c, .plain)
  | none, none =>
    if multiline && (isBlank c || c == '\n' || c == '\r') then (placeAfterFolded? false c s).map (none, ·) else none

/-- The place after a digit of a code point, and the character that the last digit completes. -/
def placeAfterDigit? (missing value : Nat) (c : Char) : Option (Option Char × Place) := do
  let value := 16 * value + (← hexValue? c)
  if missing = 1 then
    if value.isValidChar then some (some (Char.ofNat value), .plain) else none
  else some (none, .code (missing - 1) value)

/-- Up to two quotes that come right before the three that close a text of several lines belong to it. -/
def closing (quote : Char) (s : List Char) : List Char × List Char :=
  let extra := (s.takeWhile (· == quote)).take 2
  (extra, s.drop extra.length)

/-- The characters of a quoted text, and what follows its end. Escapes are for double quotes only. -/
def body? (quote : Char) (multiline : Bool) : Place → List Char → Option (List Char × List Char)
  | _, [] => none
  | .plain, c :: s =>
    if c = quote then
      if !multiline then some ([], s)
      else if [quote, quote].isPrefixOf s then some (closing quote (s.drop 2))
      else consTo c (body? quote multiline .plain s)
    else if c = '\\' ∧ quote = '"' then body? quote multiline .escape s
    else if isPlain c || (multiline && atLineEnd (c :: s)) then consTo c (body? quote multiline .plain s)
    else none
  | .escape, c :: s =>
    match placeAfterEscape? multiline c s with
    | some (some c, place) => consTo c (body? quote multiline place s)
    | some (none, place) => body? quote multiline place s
    | none => none
  | .code missing value, c :: s =>
    match placeAfterDigit? missing value c with
    | some (some c, place) => consTo c (body? quote multiline place s)
    | some (none, place) => body? quote multiline place s
    | none => none
  | .folded pastLine, c :: s =>
    match placeAfterFolded? pastLine c s with
    | some place => body? quote multiline place s
    | none => none

/-- Without the end of a line at the start. -/
def dropLineEnd : List Char → List Char
  | '\n' :: s => s
  | '\r' :: '\n' :: s => s
  | s => s

/-- A quoted text whose first quote has been read. Three quotes open one of several lines. -/
def quoted? (quote : Char) (s : List Char) : Option (Lexeme × List Char) :=
  let multiline := [quote, quote].isPrefixOf s
  let start := if multiline then dropLineEnd (s.drop 2) else s
  (body? quote multiline .plain start).map fun (body, rest) => (quoted multiline (String.ofList body), rest)

/-! ## Words -/

/-- Four digits, two digits and two digits with hyphens between them. -/
def isDateShaped (s : List Char) : Bool :=
  s.map (fun c => if c.isDigit then '0' else c) == "0000-00-00".toList

/-- A word, and what follows. A time may follow a date after a space. -/
def word? (s : List Char) : Option (Lexeme × List Char) :=
  let first := s.takeWhile isWordChar
  let rest := s.dropWhile isWordChar
  if first.isEmpty then none
  else
    match rest with
    | ' ' :: c :: more =>
      if isDateShaped first && c.isDigit then
        some (word (first ++ ' ' :: (c :: more).takeWhile isWordChar), (c :: more).dropWhile isWordChar)
      else some (word first, rest)
    | _ => some (word first, rest)

/-! ## Lexemes -/

/-- The lexeme at the start of a text, and the rest. -/
def next? : List Char → Option (Lexeme × List Char)
  | [] => none
  | '[' :: s => some (openBracket, s)
  | ']' :: s => some (closeBracket, s)
  | '\x7b' :: s => some (openBrace, s)
  | '\x7d' :: s => some (closeBrace, s)
  | ',' :: s => some (comma, s)
  | '.' :: s => some (dot, s)
  | '=' :: s => some (equals, s)
  | '\n' :: s => some (newline, s)
  | '\r' :: '\n' :: s => some (newline, s)
  | '#' :: s => some (blank, s.dropWhile isPlain)
  | '"' :: s => quoted? '"' s
  | '\x27' :: s => quoted? '\x27' s
  | c :: s => if isBlank c then some (blank, s.dropWhile isBlank) else word? (c :: s)

/-- The lexemes of a text, at most `bound` of them. -/
def upTo? : Nat → List Char → Option (List Lexeme)
  | _, [] => some []
  | 0, _ => none
  | bound + 1, s => do
    let (t, rest) ← next? s
    return t :: (← upTo? bound rest)

/-- The lexemes of a text, each of which takes up a character or more. -/
def ofText? (s : List Char) : Option (List Lexeme) :=
  upTo? s.length s

end Lexeme

end TypedSql.Toml
