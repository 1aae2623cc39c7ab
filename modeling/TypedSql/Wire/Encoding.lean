import TypedSql.Json.Reading
import TypedSql.Parameter
import TypedSql.Text.Utf8
import TypedSql.Wire.Numeric
import TypedSql.Wire.Uuid

/-!
# Parameters as bytes

* `Wire.encode`: the bytes of a parameter for a server type; null has none.
* `Wire.encodeAll`: the bytes of all parameters of a statement.
-/

namespace TypedSql.Wire

/-- The days from 1970-01-01 to 2000-01-01. -/
def epochDays : Int := 10957

/-- The microseconds from 1970-01-01 to 2000-01-01. -/
def epochMicros : Int := epochDays * 86400 * 10 ^ 6

/-- Microseconds since 2000-01-01, cut towards zero. -/
def timestampMicros (t : Timestamp) : Int :=
  Int.tdiv (t.epochNanos - epochMicros * 1000) 1000

/-- Microseconds since midnight. -/
def clockMicros (c : Clock) : Nat :=
  c.secondOfDay * 10 ^ 6 + c.nano / 1000

/-- The types of label trees and of searches in them: a version byte stands before their texts. -/
def versioned : List String :=
  ["ltree", "lquery", "ltxtquery"]

/-- The bytes of a text: identifiers and JSON have a form of their own, if the text is one. -/
def textBytes? (type : String) (s : String) : Option (List UInt8) :=
  if type = "uuid" then readUuid? (Text.trimChars s.toList)
  else if type = "json" then (Json.read? s).map fun j => Text.utf8 j.text
  else if type = "jsonb" then (Json.read? s).map fun j => 1 :: Text.utf8 j.text
  else if type ∈ versioned then some (1 :: Text.utf8 s)
  else some (Text.utf8 s)

/-- The bytes of a parameter other than null. -/
def bytesOf? (type : String) : Parameter → Option (List UInt8)
  | .null _ => none
  | .smallInt n => some (signedBytes 2 n.val)
  | .integer n => some (signedBytes 4 n.val)
  | .bigInt n => some (signedBytes 8 n.val)
  | .real x => some (bytes 4 x.toBits)
  | .double x => some (bytes 8 x.toBits)
  | .numeric d => some (numericBytes d)
  | .bool b => some [if b then 1 else 0]
  | .date d => some (signedBytes 4 (d.dayNumber - epochDays))
  | .time c => some (bytes 8 (clockMicros c))
  | .timestamp t | .timestampTz t => some (signedBytes 8 (timestampMicros t))
  | .text s => textBytes? type s

/-- The cell of a parameter: null has no bytes. Without a result the parameter has no form in this type. -/
def encode (type : String) : Parameter → Option (Option (List UInt8))
  | .null _ => some none
  | p => (bytesOf? type p).map some

/-- The cells of all parameters, each for its type; or the index of the first that has no form in its type. -/
def encodeFrom (index : Nat) : List (String × Parameter) → Except Nat (List (Option (List UInt8)))
  | [] => .ok []
  | (type, p) :: rest =>
    match encode type p with
    | none => .error index
    | some cell => (encodeFrom (index + 1) rest).map (cell :: ·)

/-- The cells of all parameters of a statement. -/
def encodeAll (types : List String) (ps : List Parameter) : Except Nat (List (Option (List UInt8))) :=
  encodeFrom 0 (types.zip ps)

end TypedSql.Wire
