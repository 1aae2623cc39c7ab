import TypedSql.Wire.Encoding

/-!
# Cells as values

* `Wire.decode?`: the value of the bytes of a cell, for a server type.
* `Wire.readCell`: the value of a cell, null without bytes.
-/

namespace TypedSql.Wire

/-- The floating-point number that exactly the bytes of its format write. -/
def readFloat? (f : Format) (count : Nat) (bs : List UInt8) : Option (Binary f) :=
  if bs.length = count then some (Binary.ofBits f (nat bs)) else none

/-- The timestamp so many microseconds after 2000-01-01. -/
def timestampOfMicros? (n : Int) : Option Timestamp :=
  Timestamp.ofEpochNanos? ((n + epochMicros) * 1000)

/-- The time of day so many microseconds after midnight, counted around the day. -/
def clockOfMicros (n : Int) : Clock :=
  let micros := (n % (86400 * 10 ^ 6)).toNat
  .ofSecondOfDay (micros / 10 ^ 6) (micros % 10 ^ 6 * 1000)

/-- The text of a cell of a type that has no treatment of its own. -/
def readText? (type : String) (bs : List UInt8) : Option String :=
  if type = "uuid" then uuidText? bs
  else if type = "json" then (Text.Utf8.strict? bs).bind fun s => (Json.read? s).map Json.text
  else if type = "jsonb" then
    match bs with
    | 1 :: bs => (Text.Utf8.strict? bs).bind fun s => (Json.read? s).map Json.text
    | _ => none
  else some (Text.Utf8.lossy bs)

/-- The value of the bytes of a cell. -/
def decode? (type : String) (bs : List UInt8) : Option Value :=
  match SqlType.ofServer type with
  | .smallInt => (signed? 2 bs).bind Value.ofInt?
  | .integer => (signed? 4 bs).bind Value.ofInt?
  | .bigInt => (signed? 8 bs).bind Value.ofInt?
  | .real => (readFloat? .single 4 bs).map Value.ofSingle
  | .double => (readFloat? .double 8 bs).map .float
  | .numeric => (readNumeric? bs).map fun d => .text d.text
  | .boolean =>
    match bs with
    | [b] => some (.bool (b != 0))
    | _ => none
  | .date => do
    let n ← signed? 4 bs
    let d ← Date.ofDayNumber? (n + epochDays)
    return .ofDate d
  | .time => (signed? 8 bs).map fun n => .timestamp ⟨.epoch, clockOfMicros n⟩
  | .timestamp | .timestampTz => ((signed? 8 bs).bind timestampOfMicros?).map .timestamp
  | .char | .varChar | .text | .other _ => (readText? type bs).map .text

/-- The value of a cell; a cell without bytes is null. -/
def readCell? (type : String) : Option (List UInt8) → Option Value
  | none => some .null
  | some bs => decode? type bs

end TypedSql.Wire
