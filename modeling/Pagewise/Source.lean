import Pagewise.Config.Reader
import Pagewise.Files
import Pagewise.Model.Reader

/-!
Models and configurations from files.
-/
namespace Pagewise

abbrev FileAccess := String → Except FileError String

namespace FileAccess

def textOf (access : FileAccess) (kind path : String) : Except Error String :=
  match access path with
  | .ok text => .ok text
  | .error .notFound => .error (.fileNotFound path)
  | .error e =>
    .error (.config ("Failed to read " ++ kind ++ " file '" ++ path ++ "': " ++ e.message))

def model (access : FileAccess) (path : String) : Except Error Model := do
  Model.ofText (← access.textOf "model" path)

def config (access : FileAccess) (path : String) : Except Error Config := do
  Config.ofText (← access.textOf "config" path)

end FileAccess

end Pagewise
