import Pagewise.Document.Printer

/-!
What a command line asks for, and the reasons for not running one.
-/
namespace Pagewise

inductive OutputFormat where
  | json
  | pretty
  deriving DecidableEq, Repr, Inhabited

namespace OutputFormat

def ofName? : String → Option OutputFormat
  | "json" => some .json
  | "pretty" => some .pretty
  | _ => none

def write : OutputFormat → Document → String
  | .json => Document.compact
  | .pretty => Document.indented

end OutputFormat

structure RunArguments where
  operation : String
  input : Option String
  pageSize : Option Nat
  /-- Zero stands for no limit. -/
  maxPages : Option Nat
  deriving DecidableEq, Repr

inductive Task where
  | operations
  | validate
  | pages (run : RunArguments)
  | items (run : RunArguments)
  deriving DecidableEq, Repr

structure CommandLine where
  model : Option String
  config : Option String
  format : OutputFormat
  verbose : Bool
  task : Task
  deriving DecidableEq, Repr

inductive Usage where
  | help
  | version
  | nothingAsked
  | noTask
  | unknownTask
  | unknownArgument
  | optionRequired
  | badValue
  | badNumber
  | repeatedOption
  | valueNotTaken
  deriving DecidableEq, Repr

end Pagewise
