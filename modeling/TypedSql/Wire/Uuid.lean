import TypedSql.Json.Lexeme
import TypedSql.Wire.Bytes

/-!
# Universally unique identifiers

* `Wire.readUuid?`: the sixteen bytes of a written identifier.
* `Wire.uuidText?`: the hyphenated form of sixteen bytes.
-/

namespace TypedSql.Wire

/-- Pairs of digits in base sixteen, of either case, as bytes. -/
def hexBytes? : List Char → Option (List UInt8)
  | [] => some []
  | [_] => none
  | a :: b :: s => do
    let high ← Json.Lexeme.hexValue? a
    let low ← Json.Lexeme.hexValue? b
    return UInt8.ofNat (16 * high + low) :: (← hexBytes? s)

/-- Two digits in base sixteen, lower case. -/
def hexByte (b : UInt8) : List Char :=
  [Nat.digitChar (b.toNat / 16), Nat.digitChar (b.toNat % 16)]

/-- Thirty-six characters: groups of eight, four, four, four and twelve digits between hyphens. -/
def readHyphenated? (s : List Char) : Option (List UInt8) :=
  if s.length = 36 ∧ s[8]? = some '-' ∧ s[13]? = some '-' ∧ s[18]? = some '-' ∧ s[23]? = some '-' then
    hexBytes? (s.take 8 ++ (s.drop 9).take 4 ++ (s.drop 14).take 4 ++ (s.drop 19).take 4 ++ s.drop 24)
  else none

/-- The bytes of an identifier: thirty-two digits, or the hyphenated form, which may stand in braces or after
`urn:uuid:`. -/
def readUuid? (s : List Char) : Option (List UInt8) :=
  if s.length = 32 then hexBytes? s
  else if s.length = 38 ∧ s.head? = some '\x7b' ∧ s.getLast? = some '\x7d' then readHyphenated? (s.tail.dropLast)
  else if s.take 9 = "urn:uuid:".toList then readHyphenated? (s.drop 9)
  else readHyphenated? s

/-- The hyphenated form of sixteen bytes. -/
def uuidText? (bs : List UInt8) : Option String :=
  if bs.length = 16 then
    let hex := fun (bs : List UInt8) => bs.flatMap hexByte
    some (String.ofList (hex (bs.take 4) ++ '-' :: hex ((bs.drop 4).take 2) ++ '-' :: hex ((bs.drop 6).take 2) ++
      '-' :: hex ((bs.drop 8).take 2) ++ '-' :: hex (bs.drop 10)))
  else none

end TypedSql.Wire
