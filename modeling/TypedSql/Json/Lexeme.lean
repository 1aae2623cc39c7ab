import TypedSql.Json

/-!
# Lexemes of JSON texts

* `Json.Lexeme`: a bracket, a comma, a colon or a scalar.
* `Json.Lexeme.next?`: the lexeme at the start of a text, and the rest.
* `Json.Lexeme.ofText?`: all lexemes of a text.
-/

namespace TypedSql.Json

/-- A bracket, a comma, a colon or a scalar. -/
inductive Lexeme where
  | openArray
  | closeArray
  | openObject
  | closeObject
  | comma
  | colon
  | scalar (v : Json)

namespace Lexeme

/-- The four blanks that may stand between lexemes. -/
def isBlank (c : Char) : Bool :=
  c == ' ' || c == '\t' || c == '\n' || c == '\r'

/-! ## Strings -/

/-- The value of a digit in base sixteen. -/
def hexValue? (c : Char) : Option Nat :=
  if c.isDigit then some (c.toNat - 48)
  else if 'a' ≤ c ∧ c ≤ 'f' then some (c.toNat - 87)
  else if 'A' ≤ c ∧ c ≤ 'F' then some (c.toNat - 55)
  else none

/-- Four digits in base sixteen. -/
def hexUnit? (a b c d : Char) : Option Nat := do
  return 4096 * (← hexValue? a) + 256 * (← hexValue? b) + 16 * (← hexValue? c) + (← hexValue? d)

/-- The character after a backslash, except `u`. -/
def simpleEscape? (c : Char) : Option Char :=
  if c = '"' ∨ c = '\\' ∨ c = '/' then some c
  else if c = 'b' then some '\x08'
  else if c = 'f' then some '\x0c'
  else if c = 'n' then some '\n'
  else if c = 'r' then some '\r'
  else if c = 't' then some '\t'
  else none

/-- The first unit of a pair of surrogates. -/
def isLeading (n : Nat) : Bool := 0xD800 ≤ n && n ≤ 0xDBFF

/-- The second unit of a pair of surrogates. -/
def isTrailing (n : Nat) : Bool := 0xDC00 ≤ n && n ≤ 0xDFFF

/-- The code point that a pair of surrogates stands for. -/
def paired (lead trail : Nat) : Nat :=
  0x10000 + 0x400 * (lead - 0xD800) + (trail - 0xDC00)

/-- A character in front of a string body that has been read further on. -/
def consTo (c : Char) : Option (List Char × List Char) → Option (List Char × List Char) :=
  Option.map fun (body, rest) => (c :: body, rest)

/-- The characters of a string up to its closing quote, and what follows. Controls must be escaped, and surrogates
must come in pairs. -/
def stringBody? : List Char → Option (List Char × List Char)
  | [] => none
  | '"' :: s => some ([], s)
  | '\\' :: 'u' :: a :: b :: c :: d :: s =>
    match hexUnit? a b c d with
    | none => none
    | some n =>
      if isTrailing n then none
      else if isLeading n then
        match s with
        | '\\' :: 'u' :: a :: b :: c :: d :: s =>
          match hexUnit? a b c d with
          | none => none
          | some m => if isTrailing m then consTo (Char.ofNat (paired n m)) (stringBody? s) else none
        | _ => none
      else consTo (Char.ofNat n) (stringBody? s)
  | '\\' :: c :: s =>
    match simpleEscape? c with
    | none => none
    | some c => consTo c (stringBody? s)
  | c :: s => if c.val < 32 then none else consTo c (stringBody? s)

/-! ## Numbers -/

/-- The digits of the integer part: a zero alone, or digits that start with another one. -/
def wholeDigits? : List Char → Option (List Char × List Char)
  | '0' :: s => some (['0'], s)
  | c :: s => if c.isDigit then some (spanDigits (c :: s)) else none
  | [] => none

/-- The fraction digits after a point, or none without a point. -/
def fractionDigits? : List Char → Option (List Char × List Char)
  | '.' :: s =>
    let (ds, rest) := spanDigits s
    if ds.isEmpty then none else some (ds, rest)
  | s => some ([], s)

/-- The exponent after its letter, or nothing without one. -/
def exponent? : List Char → Option (Option Int × List Char)
  | [] => some (none, [])
  | c :: s =>
    if c = 'e' ∨ c = 'E' then
      let (negative, body) := splitSign s
      let (ds, rest) := spanDigits body
      if ds.isEmpty then none else some (some (Binary.signed negative (digitsValue ds)), rest)
    else some (none, c :: s)

/-- The number of these parts. Without fraction and exponent it is an integer where one of sixty-four bits fits; a
negative zero is a floating-point number, and an infinite number is refused. -/
def numberOf? (negative : Bool) (whole fraction : List Char) (exponent : Option Int) : Option JsonNumber :=
  let n := Binary.signed negative (digitsValue whole)
  if fraction.isEmpty ∧ exponent = none ∧ !(negative && n == 0) ∧ -2 ^ 63 ≤ n ∧ n < 2 ^ 64 then some (.int n)
  else
    let x := Binary.ofDecimal negative (digitsValue (whole ++ fraction)) (exponent.getD 0 - fraction.length)
    if x.isFinite then some (.float x) else none

/-- A number at the start of a text. -/
def number? (negative : Bool) (s : List Char) : Option (JsonNumber × List Char) := do
  let (whole, rest) ← wholeDigits? s
  let (fraction, rest) ← fractionDigits? rest
  let (exponent, rest) ← exponent? rest
  let n ← numberOf? negative whole fraction exponent
  return (n, rest)

/-! ## Lexemes -/

/-- The lexeme at the start of a text without blanks, and the rest. -/
def next? : List Char → Option (Lexeme × List Char)
  | [] => none
  | '[' :: s => some (openArray, s)
  | ']' :: s => some (closeArray, s)
  | '\x7b' :: s => some (openObject, s)
  | '\x7d' :: s => some (closeObject, s)
  | ',' :: s => some (comma, s)
  | ':' :: s => some (colon, s)
  | '"' :: s => (stringBody? s).map fun (body, rest) => (scalar (string (String.ofList body)), rest)
  | '-' :: s => (number? true s).map fun (n, rest) => (scalar (number n), rest)
  | 'n' :: 'u' :: 'l' :: 'l' :: s => some (scalar null, s)
  | 't' :: 'r' :: 'u' :: 'e' :: s => some (scalar (bool true), s)
  | 'f' :: 'a' :: 'l' :: 's' :: 'e' :: s => some (scalar (bool false), s)
  | s => (number? false s).map fun (n, rest) => (scalar (number n), rest)

/-- The lexemes of a text, at most `bound` of them. -/
def upTo? : Nat → List Char → Option (List Lexeme)
  | 0, s => if (s.dropWhile isBlank).isEmpty then some [] else none
  | bound + 1, s =>
    match s.dropWhile isBlank with
    | [] => some []
    | s => do
      let (t, rest) ← next? s
      return t :: (← upTo? bound rest)

/-- The lexemes of a text, each of which takes up a character or more. -/
def ofText? (s : List Char) : Option (List Lexeme) :=
  upTo? s.length s

end Lexeme

end TypedSql.Json
