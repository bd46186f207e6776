import Pagewise.Command.Outcome

/-!
The program. Files named by the arguments are read beforehand; no host can be reached from here, so a
run of pages ends with a failed connection once everything else has been found in order.
-/
namespace Pagewise

def fileErrorOf : IO.Error → FileError
  | .noFileOrDirectory .. => .notFound
  | .inappropriateType _ code _ => if code == 20 then .notDirectory else .isDirectory
  | .permissionDenied .. => .other "Permission denied (os error 13)"
  | e => .other (toString e)

def readText (path : String) : IO (Except FileError String) := do
  if path.isEmpty then return .error .notFound
  try
    let bytes ← IO.FS.readBinFile path
    match Text.Utf8.decode? bytes.toList with
    | some text => return .ok text
    | none => return .error .notText
  catch e => return .error (fileErrorOf e)

def accessFor (arguments : List String) : IO FileAccess := do
  let paths := match CommandLine.ofArguments arguments with
    | .ok line => line.model.toList ++ line.config.toList
    | .error _ => []
  let texts ← paths.mapM fun path => return (path, ← readText path)
  return fun path => (texts.lookup path).getD (.error .notFound)

end Pagewise

open Pagewise

def main (arguments : List String) : IO UInt32 := do
  let access ← accessFor arguments
  let r := execute arguments access (.ofAnswers [] (.connection "no host can be reached"))
  for text in r.1.output do IO.println text
  for text in r.1.complaint do IO.eprintln text
  return r.1.status
