import TypedSql.Json.Lexeme
import TypedSql.Text.Split

/-!
# Internet addresses

* `Address.isV4`: four numbers with points between them.
* `Address.isV6`: eight groups with colons between them; two colons stand for the groups that are left out.
-/

namespace TypedSql.Address

open Text (splitOn)

/-- A number below 256 without superfluous zeros. -/
def isOctet (s : List Char) : Bool :=
  (readNat? s).any (· < 256) && (s.length == 1 || s.head? != some '0')

/-- Four numbers below 256 with points between them. -/
def isV4 (s : List Char) : Bool :=
  let parts := splitOn '.' s
  parts.length == 4 && parts.all isOctet

/-- One to four digits in base sixteen. -/
def isGroup (s : List Char) : Bool :=
  !s.isEmpty && s.length ≤ 4 && s.all fun c => (Json.Lexeme.hexValue? c).isSome

/-- How many groups these parts are; the last may be an address of four numbers, which counts as two. -/
def groupCount? (lastMayBeV4 : Bool) : List (List Char) → Option Nat
  | [] => some 0
  | [part] => if isGroup part then some 1 else if lastMayBeV4 && isV4 part then some 2 else none
  | part :: rest => if isGroup part then (groupCount? lastMayBeV4 rest).map (· + 1) else none

/-- How many groups there are in a text with colons between them; an empty text has none. -/
def countGroups? (lastMayBeV4 : Bool) (s : List Char) : Option Nat :=
  if s.isEmpty then some 0 else groupCount? lastMayBeV4 (splitOn ':' s)

/-- A text cut at its first two colons in a row. -/
def cutAtGap? : List Char → Option (List Char × List Char)
  | ':' :: ':' :: s => some ([], s)
  | c :: s => (cutAtGap? s).map fun (before, after) => (c :: before, after)
  | [] => none

/-- Eight groups, of which two colons in a row leave out at least one. -/
def isV6 (s : List Char) : Bool :=
  match cutAtGap? s with
  | none => countGroups? true s == some 8
  | some (before, after) =>
    match countGroups? false before, countGroups? true after with
    | some n, some m => n + m ≤ 7
    | _, _ => false

end TypedSql.Address
