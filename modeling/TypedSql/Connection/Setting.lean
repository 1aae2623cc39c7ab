import TypedSql.Connection.Address
import TypedSql.Number.Numeral
import TypedSql.Number.Signed
import TypedSql.Text.Utf8

/-!
# Settings of a connection

* `Setting`: a keyword and the bytes of its value.
* `Setting.Form`: which values a keyword takes.
* `Setting.forms`: the keywords.
* `Setting.isValid`: a known keyword with a value that it takes.
-/

namespace TypedSql

/-- A keyword and the bytes of its value. -/
structure Setting where
  keyword : String
  value : List UInt8
deriving DecidableEq

namespace Setting

/-- Which values a keyword takes: any, one of some words, an integer, or a list with commas of addresses or of ports. -/
inductive Form where
  | any
  | oneOf (words : List String)
  | signed (bits : Nat)
  | unsigned (bits : Nat)
  | addresses
  | ports

/-- The keywords and the values that they take. -/
def forms : List (String × Form) :=
  [("user", .any), ("password", .any), ("dbname", .any), ("options", .any), ("application_name", .any), ("host", .any),
    ("hostaddr", .addresses), ("port", .ports), ("sslmode", .oneOf ["disable", "prefer", "require"]),
    ("sslnegotiation", .oneOf ["postgres", "direct"]), ("connect_timeout", .signed 64),
    ("tcp_user_timeout", .signed 64), ("keepalives", .unsigned 64), ("keepalives_idle", .signed 64),
    ("keepalives_interval", .signed 64), ("keepalives_retries", .unsigned 32),
    ("target_session_attrs", .oneOf ["any", "read-write", "read-only"]),
    ("channel_binding", .oneOf ["disable", "prefer", "require"]),
    ("load_balance_hosts", .oneOf ["disable", "random"])]

/-- A port; an empty text stands for the usual one. -/
def isPort (s : List Char) : Bool :=
  s.isEmpty || (readUnsigned? s).any (· < 2 ^ 16)

/-- Whether a keyword of this form takes a value. -/
def Form.admits : Form → List Char → Bool
  | any, _ => true
  | oneOf words, s => words.contains (String.ofList s)
  | signed bits, s => ((readInt? s).bind (Signed.ofInt? bits)).isSome
  | unsigned bits, s => (readUnsigned? s).any (· < 2 ^ bits)
  | addresses, s => (Text.splitOn ',' s).all fun a => Address.isV4 a || Address.isV6 a
  | ports, s => (Text.splitOn ',' s).all isPort

/-- A known keyword with a value that it takes; only where any value is taken may it be no text. -/
def isValid (s : Setting) : Bool :=
  match Pairs.get? s.keyword forms, Text.Utf8.strict? s.value with
  | some form, some text => form.admits text.toList
  | some .any, none => true
  | _, _ => false

end Setting

end TypedSql
