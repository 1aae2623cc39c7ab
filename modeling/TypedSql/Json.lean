import TypedSql.Number.Numeral
import TypedSql.Pairs

/-!
# JSON values

* `Json`: a value, the members of an object in order. An integer of sixty-four bits, signed or not, is kept apart
  from other numbers.
* `Json.text`: the compact text of a value.
* `Json.floats`: how its floating-point numbers are written.
-/

namespace TypedSql

/-- A number: an integer of sixty-four bits, signed or not, or a floating-point number. -/
inductive JsonNumber where
  | int (n : Int)
  | float (x : Double)
deriving DecidableEq

/-- A value, with the members of objects in order. -/
inductive Json where
  | null
  | bool (b : Bool)
  | number (n : JsonNumber)
  | string (s : String)
  | array (items : List Json)
  | object (members : List (String × Json))

namespace Json

/-- From `0.00001` to below `1e16` positional, a whole number with `.0`, and ties between shortest digits to the even
one. -/
def floats : Layout := ⟨.even, fun e => decide (-5 ≤ e) && decide (e ≤ 15), true⟩

/-- One character of a string: quotes, backslashes and controls are escaped. -/
def stringChar (c : Char) : List Char :=
  if c = '"' then ['\\', '"']
  else if c = '\\' then ['\\', '\\']
  else if c = '\n' then ['\\', 'n']
  else if c = '\r' then ['\\', 'r']
  else if c = '\t' then ['\\', 't']
  else if c = '\x08' then ['\\', 'b']
  else if c = '\x0c' then ['\\', 'f']
  else if c.val < 32 then
    ['\\', 'u', '0', '0', Nat.digitChar (c.val.toNat / 16), Nat.digitChar (c.val.toNat % 16)]
  else [c]

/-- A string between its quotes. -/
def stringChars (s : String) : List Char :=
  '"' :: s.toList.flatMap stringChar ++ ['"']

/-- A number; infinities and not-a-numbers have no form and become `null`. -/
def numberChars : JsonNumber → List Char
  | .int n => (intText n).toList
  | .float x => if x.isFinite then floats.finiteText x else "null".toList

mutual
def chars : Json → List Char
  | null => "null".toList
  | bool b => (if b then "true" else "false").toList
  | number n => numberChars n
  | string s => stringChars s
  | array items => '[' :: itemChars items ++ [']']
  | object members => '\x7b' :: memberChars members ++ ['\x7d']

def itemChars : List Json → List Char
  | [] => []
  | [v] => v.chars
  | v :: rest => v.chars ++ ',' :: itemChars rest

def memberChars : List (String × Json) → List Char
  | [] => []
  | [(name, v)] => stringChars name ++ ':' :: v.chars
  | (name, v) :: rest => stringChars name ++ ':' :: v.chars ++ ',' :: memberChars rest
end

def text (j : Json) : String :=
  String.ofList j.chars

def string? : Json → Option String
  | string s => some s
  | _ => none

end Json

end TypedSql
