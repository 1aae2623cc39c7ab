import TypedSql.Toml.Lexeme
import TypedSql.Toml.Scalar

/-!
# Reading TOML texts

* `Toml.key?`: names with dots between them.
* `Toml.value?`: a value; arrays and inline tables may run over several lines.
* `Toml.Document`: the entries so far, and the table that the last header has opened.
* `Toml.read?`: the entries of a text.

Each reader of a part takes the lexemes that are left and returns what follows the part.
-/

namespace TypedSql.Toml

/-- Arrays and inline tables may be nested this deep, and a key may have this many names. -/
def maxDepth : Nat := 80

/-! ## Blanks, names and keys -/

def Lexeme.isSpace : Lexeme → Bool
  | blank => true
  | _ => false

/-- A blank or the end of a line. -/
def Lexeme.isGap : Lexeme → Bool
  | blank | newline => true
  | _ => false

def isNameChar (c : Char) : Bool :=
  c.isAlphanum || c == '_' || c == '-'

/-- A name: a word of such characters, or a text quoted on one line. -/
def Lexeme.name? : Lexeme → Option String
  | quoted false s => some s
  | word s => if s.all isNameChar then some (String.ofList s) else none
  | _ => none

/-- The names of a key from a place on, and what follows it and any blanks. -/
def keyFrom? (atName : Bool) : List Lexeme → Option (List String × List Lexeme)
  | [] => if atName then none else some ([], [])
  | .blank :: ts => keyFrom? atName ts
  | .dot :: ts => if atName then none else keyFrom? true ts
  | t :: ts =>
    if atName then do
      let name ← t.name?
      let (names, rest) ← keyFrom? false ts
      return (name :: names, rest)
    else some ([], t :: ts)

/-- Names with dots between them, and what follows. -/
def key? (ts : List Lexeme) : Option (List String × List Lexeme) :=
  (keyFrom? true ts).filter fun (names, _) => names.length ≤ maxDepth

/-- An equals sign and any blanks. -/
def afterEquals? : List Lexeme → Option (List Lexeme)
  | .equals :: ts => some (ts.dropWhile Lexeme.isSpace)
  | _ => none

/-! ## Values -/

/-- The text of words with points between them, and what follows. -/
def scalarText : List Lexeme → List Char × List Lexeme
  | .word s :: ts =>
    let (more, rest) := scalarText ts
    (s ++ more, rest)
  | .dot :: ts =>
    let (more, rest) := scalarText ts
    ('.' :: more, rest)
  | ts => ([], ts)

mutual

/-- A value, read in at most `bound` steps and nested at most `depth` deep. -/
def valueUpTo? (bound depth : Nat) (ts : List Lexeme) : Option (Toml × List Lexeme) :=
  match bound, ts with
  | 0, _ => none
  | bound + 1, .openBracket :: ts => if depth = 0 then none else itemsUpTo? bound (depth - 1) [] ts
  | bound + 1, .openBrace :: ts =>
    if depth = 0 then none
    else
      match ts.dropWhile Lexeme.isGap with
      | .closeBrace :: ts => some (table .inline [], ts)
      | ts => membersUpTo? bound (depth - 1) [] ts
  | _, .quoted _ s :: ts => some (string s, ts)
  | _, ts =>
    let (text, rest) := scalarText ts
    (scalar? text).map (·, rest)

/-- The rest of an array that holds some items already. -/
def itemsUpTo? (bound depth : Nat) (items : List Toml) (ts : List Lexeme) : Option (Toml × List Lexeme) :=
  match bound with
  | 0 => none
  | bound + 1 =>
    match ts.dropWhile Lexeme.isGap with
    | .closeBracket :: ts => some (array items, ts)
    | ts => do
      let (v, ts) ← valueUpTo? bound depth ts
      match ts.dropWhile Lexeme.isGap with
      | .comma :: ts => itemsUpTo? bound depth (items ++ [v]) ts
      | .closeBracket :: ts => some (array (items ++ [v]), ts)
      | _ => none

/-- The rest of an inline table that holds some entries already and has a key next. -/
def membersUpTo? (bound depth : Nat) (es : Entries) (ts : List Lexeme) : Option (Toml × List Lexeme) :=
  match bound with
  | 0 => none
  | bound + 1 => do
    let (key, ts) ← key? ts
    let ts ← afterEquals? ts
    let (v, ts) ← valueUpTo? bound depth ts
    let es ← assign? key v es
    match ts.dropWhile Lexeme.isGap with
    | .closeBrace :: ts => some (table .inline es, ts)
    | .comma :: ts =>
      match ts.dropWhile Lexeme.isGap with
      | .closeBrace :: ts => some (table .inline es, ts)
      | ts => membersUpTo? bound depth es ts
    | _ => none

end

/-- A value: every other step at least takes a lexeme. -/
def value? (ts : List Lexeme) : Option (Toml × List Lexeme) :=
  valueUpTo? (2 * ts.length + 2) maxDepth ts

/-! ## Lines -/

/-- The entries so far, and the table that the last header has opened. -/
structure Document where
  entries : Entries
  opened : List String

namespace Document

/-- A value for a key of the open table. -/
def assign? (d : Document) (key : List String) (v : Toml) : Option Document :=
  (alter? .implied (fun _ es => Toml.assign? key v es) d.opened .header d.entries).map fun es => ⟨es, d.opened⟩

/-- The header of a table, or of the next table of an array. -/
def openAt? (d : Document) (isItem : Bool) (key : List String) : Option Document :=
  ((if isItem then openItem? else openTable?) key d.entries).map fun es => ⟨es, key⟩

end Document

/-- What follows the given number of closing brackets. -/
def afterBrackets? : Nat → List Lexeme → Option (List Lexeme)
  | 0, ts => some ts
  | n + 1, .closeBracket :: ts => afterBrackets? n ts
  | _ + 1, _ => none

def header? (isItem : Bool) (d : Document) (ts : List Lexeme) : Option (Document × List Lexeme) := do
  let (key, ts) ← key? ts
  let ts ← afterBrackets? (if isItem then 2 else 1) ts
  let d ← d.openAt? isItem key
  return (d, ts)

/-- The effect of a header, or of a key with its value. -/
def line? (d : Document) : List Lexeme → Option (Document × List Lexeme)
  | .openBracket :: .openBracket :: ts => header? true d ts
  | .openBracket :: ts => header? false d ts
  | ts => do
    let (key, ts) ← key? ts
    let ts ← afterEquals? ts
    let (v, ts) ← value? ts
    let d ← d.assign? key v
    return (d, ts)

/-- The end of a line or of the text, after any blanks. -/
def afterLine? (ts : List Lexeme) : Option (List Lexeme) :=
  match ts.dropWhile Lexeme.isSpace with
  | [] => some []
  | .newline :: ts => some ts
  | _ => none

/-- The lines of a text, at most `bound` of them. -/
def linesUpTo? : Nat → Document → List Lexeme → Option Document
  | 0, _, _ => none
  | bound + 1, d, ts =>
    match ts.dropWhile Lexeme.isGap with
    | [] => some d
    | ts => do
      let (d, ts) ← line? d ts
      let ts ← afterLine? ts
      linesUpTo? bound d ts

/-- Without a byte order mark at the start. -/
def dropMark : List Char → List Char
  | '\ufeff' :: s => s
  | s => s

def read? (s : String) : Option Entries := do
  let ts ← Lexeme.ofText? (dropMark s.toList)
  let d ← linesUpTo? (ts.length + 1) ⟨[], []⟩ ts
  return d.entries

end TypedSql.Toml
