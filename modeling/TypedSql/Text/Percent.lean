import TypedSql.Json.Lexeme
import TypedSql.Text.Utf8

/-!
# Percent-encoded texts

* `percentDecode`: the bytes of a text in which `%` and two digits stand for a byte.
-/

namespace TypedSql.Text

/-- The byte of two digits in base sixteen. -/
def hexByte? (a b : Char) : Option UInt8 := do
  return UInt8.ofNat (16 * (← Json.Lexeme.hexValue? a) + (← Json.Lexeme.hexValue? b))

/-- The bytes of a text; a `%` without two digits stands for itself. -/
def percentDecode : List Char → List UInt8
  | [] => []
  | '%' :: a :: b :: s =>
    match hexByte? a b with
    | some n => n :: percentDecode s
    | none => 37 :: percentDecode (a :: b :: s)
  | c :: s => String.utf8EncodeChar c ++ percentDecode s

end TypedSql.Text
