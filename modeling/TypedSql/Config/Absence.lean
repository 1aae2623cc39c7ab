import TypedSql.Text.Split

/-!
# Paths without a text

* `Absence`: why there is no text to read at a path.
* `Absence.ofPath`: the reason, where no path leads to a file.
-/

namespace TypedSql

/-- Why there is no text to read at a path: a name in it does not exist or is too long, it leads to a directory, or it is
no path at all. -/
inductive Absence where
  | missing
  | tooLong
  | directory
  | malformed
deriving DecidableEq

namespace Absence

def reason : Absence → String
  | missing => "No such file or directory (os error 2)"
  | tooLong => "File name too long (os error 36)"
  | directory => "Is a directory (os error 21)"
  | malformed => "file name contained an unexpected NUL byte"

/-- Whether a name leads from a directory to a directory without fail: the directory itself, or the one above it. -/
def isStep (name : List Char) : Bool :=
  name.isEmpty || name == ['.'] || name == ['.', '.']

/-- Directories that stand at the root of every system. -/
def rootDirectories : List String :=
  ["bin", "boot", "dev", "etc", "home", "lib", "media", "mnt", "opt", "proc", "root", "run", "sbin", "srv", "sys", "tmp",
    "usr", "var"]

/-- The names of a path that need not exist, from the first on. -/
def doubtfulNames (path : List Char) : List (List Char) :=
  match path.head?, (Text.splitOn '/' path).filter (!isStep ·) with
  | some '/', name :: names =>
    if rootDirectories.contains (String.ofList name) then names else name :: names
  | _, names => names

/-- The reason, where no path leads to a file: it is the first name that fails, and names have at most 255 bytes. -/
def ofPath (path : String) : Absence :=
  if path.toList.contains '\x00' then malformed
  else if 4096 ≤ path.utf8ByteSize then tooLong
  else if path.isEmpty then missing
  else
    match doubtfulNames path.toList with
    | [] => directory
    | name :: _ => if (String.ofList name).utf8ByteSize ≤ 255 then missing else tooLong

end Absence

end TypedSql
