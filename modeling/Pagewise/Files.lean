import Pagewise.Text.Utf8

/-!
Text files by path. A directory holds files and directories under slash-separated names; a path is
followed name by name from there, and what it ends at has to be a file of well-formed text.
-/
namespace Pagewise

inductive FileError where
  | notFound
  | notDirectory
  | isDirectory
  | nameTooLong
  | notText
  | nulInName
  | other (text : String)
  deriving DecidableEq, Repr

namespace FileError

def message : FileError → String
  | .notFound => "No such file or directory (os error 2)"
  | .notDirectory => "Not a directory (os error 20)"
  | .isDirectory => "Is a directory (os error 21)"
  | .nameTooLong => "File name too long (os error 36)"
  | .notText => "stream did not contain valid UTF-8"
  | .nulInName => "file name contained an unexpected NUL byte"
  | .other text => text

end FileError

inductive FileEntry where
  | file (bytes : List UInt8)
  | directory
  deriving DecidableEq, Repr

/-- What there is, by the names that lead to it. -/
structure Files where
  entries : List (List String × FileEntry)

namespace Files

def nameLimit : Nat := 255

def pathLimit : Nat := 4095

def names (path : String) : List String :=
  let parts := path.splitOn "/"
  parts.filter (fun name => !name.isEmpty) ++ (if parts.getLast? == some "" then ["."] else [])

def ofPairs (entries : List (String × FileEntry)) : Files :=
  ⟨entries.map fun e => (names e.1, e.2)⟩

def entry? (fs : Files) (place : List String) : Option FileEntry :=
  (fs.entries.lookup place) <|>
    (if fs.entries.any fun e => place.isPrefixOf e.1 then some .directory else none)

/-- Follow names from a directory; absent places lie outside the one that the files are in. -/
def follow (fs : Files) : Option (List String) → List String → Except FileError FileEntry
  | place, [] =>
    match place with
    | none | some [] => .ok .directory
    | some place =>
      match fs.entry? place with
      | some e => .ok e
      | none => .error .notFound
  | place, name :: rest =>
    match place.bind fs.entry?, place with
    | some (.file _), _ => .error .notDirectory
    | none, some (_ :: _) => .error .notFound
    | _, _ =>
      if name == "." then fs.follow place rest
      else if name == ".." then
        fs.follow (place.bind fun place => if place.isEmpty then none else some place.dropLast) rest
      else if nameLimit < name.utf8ByteSize then .error .nameTooLong
      else
        match place with
        | none => .error .notFound
        | some place => fs.follow (some (place ++ [name])) rest

def read (fs : Files) (path : String) : Except FileError String :=
  if path.toList.contains '\x00' then .error .nulInName
  else if path.isEmpty then .error .notFound
  else if pathLimit < path.utf8ByteSize then .error .nameTooLong
  else
    let start := if path.startsWith "/" then none else some []
    match fs.follow start (names path) with
    | .error e => .error e
    | .ok .directory => .error .isDirectory
    | .ok (.file bytes) =>
      match Text.Utf8.decode? bytes with
      | some text => .ok text
      | none => .error .notText

end Files

end Pagewise
