import TypedSql.Connection.Setting
import TypedSql.Text.Blank
import TypedSql.Text.Percent

/-!
# Connection strings

* `Connection.Url.read?`: the settings of `[user[:password]@][host[:port],…][/database][?keyword=value&…]`.
* `Connection.Keyed.read?`: the settings of `keyword = value …`.
* `Connection.settings?`: the settings of a connection string in either form, if all of them are valid.
-/

namespace TypedSql.Connection

open Text (percentDecode splitOn trimStart utf8)

/-- The parts of a text before and after the first `c`; without one there is no second part. -/
def cut (c : Char) (s : List Char) : List Char × Option (List Char) :=
  match s.dropWhile (· != c) with
  | [] => (s, none)
  | _ :: rest => (s.takeWhile (· != c), some rest)

/-! ## Locators -/

namespace Url

/-- The bytes of a decoded part, which must be a text. -/
def textBytes? (s : List Char) : Option (List UInt8) :=
  let bytes := percentDecode s
  if (Text.Utf8.strict? bytes).isSome then some bytes else none

/-- A host is a text, or the path of a directory. -/
def host? (s : List Char) : Option Setting :=
  let bytes := percentDecode s
  if bytes.head? = some 47 then some ⟨"host", bytes⟩ else (textBytes? s).map (⟨"host", ·⟩)

def credentials? (s : List Char) : Option (List Setting) := do
  let (user, password) := cut ':' s
  let user ← textBytes? user
  return ⟨"user", user⟩ :: (password.map fun p => ⟨"password", percentDecode p⟩).toList

/-- Host and port of a part; a host that holds colons stands in brackets. -/
def hostAndPort? : List Char → Option (List Char × Option (List Char))
  | '[' :: s =>
    match cut ']' s with
    | (host, some []) => some (host, none)
    | (host, some (':' :: port)) => some (host, some port)
    | _ => none
  | s => some (cut ':' s)

def place? (s : List Char) : Option (List Setting) := do
  let (host, port) ← hostAndPort? s
  let host ← host? host
  let port ← textBytes? (port.getD "5432".toList)
  return [host, ⟨"port", port⟩]

def places? (s : List Char) : Option (List Setting) :=
  if s.isEmpty then some [] else ((splitOn ',' s).mapM place?).map List.flatten

def database? (s : List Char) : Option (List Setting) :=
  if s.isEmpty then some [] else (textBytes? s).map fun bytes => [⟨"dbname", bytes⟩]

/-- A keyword, an equals sign and a value. -/
def parameter? (s : List Char) : Option Setting :=
  match cut '=' s with
  | (keyword, some value) => do
    let keyword ← Text.Utf8.strict? (percentDecode keyword)
    if keyword = "host" then host? value else (textBytes? value).map (⟨keyword, ·⟩)
  | (_, none) => none

/-- Parameters with ampersands between them, and maybe one at the end. -/
def parameters? (s : List Char) : Option (List Setting) :=
  let parts := splitOn '&' s
  (if parts.getLast? = some [] then parts.dropLast else parts).mapM parameter?

def read? (s : List Char) : Option (List Setting) := do
  let (credentials, s) :=
    match cut '@' s with
    | (before, some after) => (some before, after)
    | (_, none) => (none, s)
  let (hosts, s) := (s.takeWhile fun c => c != '/' && c != '?', s.dropWhile fun c => c != '/' && c != '?')
  let (path, query) := cut '?' s
  let credentials ← (credentials.mapM credentials?)
  let hosts ← places? hosts
  let database ← database? (path.drop 1)
  let parameters ← (query.mapM parameters?)
  return credentials.getD [] ++ hosts ++ database ++ parameters.getD []

end Url

/-! ## Keywords and values -/

namespace Keyed

/-- A value up to a blank, and what follows. A backslash takes the character after it as it stands. -/
def bareValue : List Char → List Char × List Char
  | [] | ['\\'] => ([], [])
  | '\\' :: c :: s =>
    let (value, rest) := bareValue s
    (c :: value, rest)
  | c :: s =>
    if Text.isBlank c then ([], c :: s)
    else
      let (value, rest) := bareValue s
      (c :: value, rest)

/-- A value up to an apostrophe, and what follows. -/
def quotedValue? : List Char → Option (List Char × List Char)
  | [] | ['\\'] => none
  | '\x27' :: s => some ([], s)
  | '\\' :: c :: s => Json.Lexeme.consTo c (quotedValue? s)
  | c :: s => Json.Lexeme.consTo c (quotedValue? s)

/-- A value, and what follows; without apostrophes it cannot be empty. -/
def value? : List Char → Option (List Char × List Char)
  | '\x27' :: s => quotedValue? s
  | s =>
    let (value, rest) := bareValue s
    if value.isEmpty then none else some (value, rest)

def isKeywordChar (c : Char) : Bool :=
  !Text.isBlank c && c != '='

/-- At most `bound` settings. A place without a keyword ends them. -/
def upTo? : Nat → List Char → Option (List Setting)
  | 0, _ => some []
  | bound + 1, s =>
    let keyword := (trimStart s).takeWhile isKeywordChar
    if keyword.isEmpty then some []
    else
      match trimStart ((trimStart s).dropWhile isKeywordChar) with
      | '=' :: s => do
        let (value, s) ← value? (trimStart s)
        let rest ← upTo? bound s
        return ⟨String.ofList keyword, utf8 (String.ofList value)⟩ :: rest
      | _ => none

/-- The settings of a text, each of which takes up a character or more. -/
def read? (s : List Char) : Option (List Setting) :=
  upTo? s.length s

end Keyed

/-! ## Connection strings -/

def schemes : List (List Char) :=
  ["postgres://".toList, "postgresql://".toList]

/-- The settings of a connection string, if all of them are valid. -/
def settings? (s : String) : Option (List Setting) :=
  let read :=
    match schemes.find? (·.isPrefixOf s.toList) with
    | some scheme => Url.read? (s.toList.drop scheme.length)
    | none => Keyed.read? s.toList
  read.filter fun settings => settings.all Setting.isValid

end TypedSql.Connection
