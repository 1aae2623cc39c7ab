import TypedSql.Error
import TypedSql.Number.Decimal.OfDouble
import TypedSql.Number.Decimal.Reading
import TypedSql.SqlType
import TypedSql.Calendar.Reading
import TypedSql.Value

/-!
# Parameters

* `Parameter`: a value in the form that the declared type of its placeholder asks for.
* `Unfit`: why a value does not fit a type.
* `Parameter.of`: one value and one type.
* `bindAll`: as many values as types, by position.
-/

namespace TypedSql

/-- A value in the form that the declared type of its placeholder asks for. -/
inductive Parameter where
  | null (type : SqlType)
  | smallInt (n : Signed 16)
  | integer (n : Signed 32)
  | bigInt (n : Signed 64)
  | real (x : Single)
  | double (x : Double)
  | numeric (d : Decimal)
  | bool (b : Bool)
  | date (d : Date)
  | time (c : Clock)
  | timestamp (t : Timestamp)
  | timestampTz (t : Timestamp)
  | text (s : String)
deriving DecidableEq

/-- Why a value does not fit a type. -/
inductive Unfit where
  | integer (shown : String)
  | range (n : Int) (type : SqlType)
  | number (shown : String)
  | decimal (shown : String)
  | finite (x : Double)
  | boolean (shown : String)
  | timestamp (v : Value)
deriving DecidableEq

def Unfit.reason : Unfit → String
  | integer shown => shown ++ " is not an integer"
  | range n type => intText n ++ " is out of range for " ++ type.name
  | number shown => shown ++ " is not a number"
  | decimal shown => shown ++ " is not a decimal"
  | finite x => Layout.plain.text x ++ " is not a finite decimal"
  | boolean shown => shown ++ " is not a boolean"
  | timestamp v => v.display ++ " is not a timestamp"

namespace Parameter

open Text (trim trimChars)

/-! ## Conversions -/

def inApostrophes (s : String) : String :=
  "'" ++ s ++ "'"

def shown : Value → String
  | .text s => inApostrophes s
  | v => v.display

def orElse {α : Type} (r : Option α) (fault : Unfit) : Except Unfit α :=
  match r with
  | some a => .ok a
  | none => .error fault

/-- The integer of a float without fractional part, strictly between the ends of sixty-four bits. -/
def integerOfDouble? (x : Double) : Option (Signed 64) :=
  match x.toInt? with
  | some n => if n.natAbs < 2 ^ 63 then Signed.ofInt? 64 n else none
  | none => none

/-- A value as an integer; timestamps count milliseconds. -/
def toInteger (v : Value) : Except Unfit (Signed 64) :=
  let r :=
    match v with
    | .null => none
    | .int n => some n
    | .float x => integerOfDouble? x
    | .bool b => some (.ofBool b)
    | .text s => (readInt? (trimChars s.toList)).bind (Signed.ofInt? 64)
    | .timestamp t => Signed.ofInt? 64 t.epochMillis
  orElse r (.integer (shown v))

/-- A value as an integer of a narrower type. -/
def toNarrow (bits : Nat) (type : SqlType) (v : Value) : Except Unfit (Signed bits) := do
  let n ← toInteger v
  orElse (Signed.ofInt? bits n.val) (.range n.val type)

def toFloat (v : Value) : Except Unfit Double :=
  let r :=
    match v with
    | .float x => some x
    | .int n => some (Binary.ofInt .double n.val)
    | .bool b => some (Binary.ofInt .double (Signed.ofBool b).val)
    | .text s => readDouble? (trimChars s.toList)
    | .null | .timestamp _ => none
  orElse r (.number (shown v))

def toDecimal (v : Value) : Except Unfit Decimal :=
  match v with
  | .int n => orElse (Decimal.ofInt? n.val) (.decimal (shown v))
  | .float x => orElse (Decimal.ofDouble? x) (.finite x)
  | .bool b => orElse (Decimal.ofInt? (Signed.ofBool b).val) (.decimal (shown v))
  | .text s => orElse (Decimal.read? (trimChars s.toList)) (.decimal (inApostrophes (trim s)))
  | .null | .timestamp _ => .error (.decimal (shown v))

/-- The texts that mean true, and those that mean false, in letters of either case. -/
def boolOfText? (s : List Char) : Option Bool :=
  let word := String.ofList (s.map Char.toLower)
  if ["true", "t", "yes", "y", "on", "1"].contains word then some true
  else if ["false", "f", "no", "n", "off", "0"].contains word then some false
  else none

/-- A value as a truth value; numbers are true unless they are zero. -/
def toBool (v : Value) : Except Unfit Bool :=
  let r :=
    match v with
    | .bool b => some b
    | .int n => some (n.val != 0)
    | .float x => some !x.isZero
    | .text s => boolOfText? (trimChars s.toList)
    | .null | .timestamp _ => none
  orElse r (.boolean (shown v))

/-- A value as a timestamp; integers count milliseconds. -/
def toTimestamp (v : Value) : Except Unfit Timestamp :=
  let r :=
    match v with
    | .timestamp t => some t
    | .int n => Timestamp.ofEpochMillis? n.val
    | .text s => Timestamp.read? (trimChars s.toList)
    | .null | .bool _ | .float _ => none
  orElse r (.timestamp v)

/-! ## Binding -/

/-- A value other than null in the form that a type asks for. -/
def convert : SqlType → Value → Except Unfit Parameter
  | .smallInt, v => (toNarrow 16 .smallInt v).map smallInt
  | .integer, v => (toNarrow 32 .integer v).map integer
  | .bigInt, v => (toInteger v).map bigInt
  | .real, v => (toFloat v).map fun x => real x.narrow
  | .double, v => (toFloat v).map double
  | .numeric, v => (toDecimal v).map numeric
  | .boolean, v => (toBool v).map bool
  | .date, v => (toTimestamp v).map fun t => date t.date
  | .time, v => (toTimestamp v).map fun t => time t.clock
  | .timestamp, v => (toTimestamp v).map timestamp
  | .timestampTz, v => (toTimestamp v).map timestampTz
  | .char, v | .varChar, v | .text, v | .other _, v => .ok (text v.display)

/-- A value in the form that a type asks for; null has the type itself. -/
def of (type : SqlType) (v : Value) : Except Unfit Parameter :=
  if v.isNull then .ok (null type) else convert type v

end Parameter

/-- The parameter at a position, counted from one. -/
def bindAt (position : Nat) (type : SqlType) (v : Value) : Except Error Parameter :=
  (Parameter.of type v).mapError fun fault => .coercion position fault.reason

/-- The parameters from a position on; the first misfit is reported. -/
def bindFrom (position : Nat) : List (SqlType × Value) → Except Error (List Parameter)
  | [] => .ok []
  | (type, v) :: rest => do
    let p ← bindAt position type v
    let ps ← bindFrom (position + 1) rest
    return p :: ps

/-- As many values as types, by position. -/
def bindAll (types : List SqlType) (values : List Value) : Except Error (List Parameter) :=
  if types.length = values.length then bindFrom 1 (types.zip values)
  else .error (.countMismatch types.length values.length)

end TypedSql
