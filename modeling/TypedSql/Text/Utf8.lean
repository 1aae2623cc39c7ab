/-!
# Texts as bytes

* `utf8`: the bytes of a text.
* `Utf8.step`: the character at the start of a list of bytes, or the length of the part that is none.
* `Utf8.lossy`: the text of any bytes, with a replacement character for each ill-formed part.
* `Utf8.strict?`: the text of well-formed bytes.
-/

namespace TypedSql.Text

def utf8 (s : String) : List UInt8 :=
  s.toList.flatMap String.utf8EncodeChar

namespace Utf8

/-- The least and the greatest second byte after a given first one. -/
def secondRange (b : Nat) : Nat × Nat :=
  if b = 0xE0 then (0xA0, 0xBF)
  else if b = 0xED then (0x80, 0x9F)
  else if b = 0xF0 then (0x90, 0xBF)
  else if b = 0xF4 then (0x80, 0x8F)
  else (0x80, 0xBF)

/-- Whether a byte may follow the first one as the second. -/
def isSecond (first b : Nat) : Bool :=
  (secondRange first).1 ≤ b && b ≤ (secondRange first).2

def isContinuation (b : Nat) : Bool :=
  0x80 ≤ b && b ≤ 0xBF

def two (a : Nat) : List Nat → Option Char × Nat
  | b :: _ => if isSecond a b then (some (Char.ofNat (a % 32 * 64 + b % 64)), 2) else (none, 1)
  | [] => (none, 1)

def three (a : Nat) : List Nat → Option Char × Nat
  | b :: c :: _ =>
    if isSecond a b then
      if isContinuation c then (some (Char.ofNat (a % 16 * 4096 + b % 64 * 64 + c % 64)), 3) else (none, 2)
    else (none, 1)
  | [b] => if isSecond a b then (none, 2) else (none, 1)
  | [] => (none, 1)

def four (a : Nat) : List Nat → Option Char × Nat
  | b :: c :: d :: _ =>
    if isSecond a b then
      if isContinuation c then
        if isContinuation d then
          (some (Char.ofNat (a % 8 * 262144 + b % 64 * 4096 + c % 64 * 64 + d % 64)), 4)
        else (none, 3)
      else (none, 2)
    else (none, 1)
  | [b, c] => if isSecond a b then if isContinuation c then (none, 3) else (none, 2) else (none, 1)
  | [b] => if isSecond a b then (none, 2) else (none, 1)
  | [] => (none, 1)

/-- The character that starts with the byte `a`, and its length; or none, and the length of the longest start of a
character there. -/
def step (a : Nat) (rest : List Nat) : Option Char × Nat :=
  if a < 0x80 then (some (Char.ofNat a), 1)
  else if 0xC2 ≤ a ∧ a ≤ 0xDF then two a rest
  else if 0xE0 ≤ a ∧ a ≤ 0xEF then three a rest
  else if 0xF0 ≤ a ∧ a ≤ 0xF4 then four a rest
  else (none, 1)

/-- The characters of a list of bytes, at most `bound` of them; none for each ill-formed part. -/
def upTo : Nat → List Nat → List (Option Char)
  | 0, _ => []
  | _, [] => []
  | bound + 1, a :: rest =>
    let (c, length) := step a rest
    c :: upTo bound (rest.drop (length - 1))

/-- The characters of a list of bytes, each of which takes up a byte or more; none for each ill-formed part. -/
def chars (bytes : List UInt8) : List (Option Char) :=
  upTo bytes.length (bytes.map UInt8.toNat)

/-- The text of any bytes, with a replacement character for each ill-formed part. -/
def lossy (bytes : List UInt8) : String :=
  String.ofList ((chars bytes).map (·.getD '\ufffd'))

def strict? (bytes : List UInt8) : Option String :=
  ((chars bytes).mapM id).map String.ofList

end Utf8

end TypedSql.Text
