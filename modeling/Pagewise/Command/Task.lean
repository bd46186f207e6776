import Pagewise.Command.Basic
import Pagewise.Command.Message
import Pagewise.Model.Resolution
import Pagewise.Operation.Paging
import Pagewise.Source

/-!
Running a command line. Everything that a run of pages needs is checked before the first request;
after that every page, or item, is a message of its own, and the first error ends the run.
-/
namespace Pagewise

structure Report where
  messages : List Message
  result : Except Error Unit

structure PreparedRun where
  operation : PagedOperation
  client : OperationClient
  input : Document
  maxPages : Option Nat

namespace Report

def failure (e : Error) : Report := ⟨[], .error e⟩

def ofValues {α : Type} (say : Nat → α → Message) (r : List α × Except Error Unit) : Report :=
  ⟨(r.1.zipIdx 1).map fun e => say e.2 e.1, r.2⟩

end Report

def Config.resolve (config : Option Config) (m : Model) (operation : String) :
    Except Error PagedOperation :=
  m.resolve operation ((config.map fun c => c.endBehaviorOf operation).getD default)

/-- What is wrong with an operation, if anything, when it is run as a configuration says. -/
def Config.fault? (config : Option Config) (m : Model) (operation : String) : Option Error :=
  let checked := do
    let resolved ← resolve config m operation
    match config.bind fun c => c.pageSizeOf operation with
    | none => return ()
    | some size => (resolved.prepareInput .null (some size)).map fun _ => ()
  match checked with
  | .ok () => none
  | .error e => some e

namespace PreparedRun

def inputOf : Option String → Except Error Document
  | none => .ok .null
  | some text =>
    match Document.parse text with
    | some d => .ok d
    | none => .error ((Error.malformedJson "no JSON document").withContext "Invalid --input-json")

/-- The arguments' limit, or else the configured one; zero is none. -/
def limitOf (c : Config) : Option Nat → Option Nat
  | some 0 => none
  | some limit => some limit
  | none => c.maxPages?

def operationAndInput (m : Model) (c : Config) (run : RunArguments) :
    Except Error (PagedOperation × Document) := do
  let id ← m.findOperation run.operation
  let operation ← Config.resolve (some c) m id
  let input ← inputOf run.input
  let input ← operation.prepareInput input (run.pageSize <|> c.pageSizeOf id)
  return (operation, input)

def ofArguments (m : Model) (c : Config) (run : RunArguments) : Except Error PreparedRun := do
  let (operation, input) ← operationAndInput m c run
  let client ← c.operationClient
  return ⟨operation, client, input, limitOf c run.maxPages⟩

/-- The stream of a run; the warnings of its retries are heard. -/
def polled (r : PreparedRun) :
    Polled (PageStream DocumentRequest Document Error DocumentPage × Exchange) Error DocumentPage :=
  PageStream.polled (r.operation.pages (r.client.fetcherWarned true r.operation.name))

def start (r : PreparedRun) (x : Exchange) :
    PageStream DocumentRequest Document Error DocumentPage × Exchange :=
  (r.operation.paginate r.input, x)

/-- The pages within the limit, awaited up to the first error. -/
def pages (r : PreparedRun) (x : Exchange) : (List DocumentPage × Except Error Unit) × Exchange :=
  let a := r.polled.limit.awaited.untilError (r.start x, r.maxPages)
  (a.1, a.2.1.2)

/-- The items of the pages within the limit, awaited up to the first error. -/
def items (r : PreparedRun) (x : Exchange) : (List Document × Except Error Unit) × Exchange :=
  let a := (r.polled.limit.awaitedItems DocumentPage.items?).untilError
    ((r.start x, r.maxPages), [])
  (a.1, a.2.1.1.2)

end PreparedRun

namespace CommandLine

def loadModel (c : CommandLine) (access : FileAccess) : Except Error Model :=
  match c.model with
  | some path => access.model path
  | none => .error (.config "Model file not specified (use -m flag)")

def loadConfig? (c : CommandLine) (access : FileAccess) : Except Error (Option Config) :=
  match c.config with
  | some path => (access.config path).map some
  | none => .ok none

def loadConfig (c : CommandLine) (access : FileAccess) : Except Error Config := do
  match ← c.loadConfig? access with
  | some config => return config
  | none => .error (.config "Runtime config not specified (use -C flag)")

def prepare (c : CommandLine) (access : FileAccess) (run : RunArguments) :
    Except Error PreparedRun := do
  let m ← c.loadModel access
  let config ← c.loadConfig access
  PreparedRun.ofArguments m config run

def reportOperations (c : CommandLine) (access : FileAccess) : Report :=
  match (do (← c.loadModel access).paginatedOperations : Except Error (List PaginatedEntry)) with
  | .error e => .failure e
  | .ok entries => ⟨[.operations entries], .ok ()⟩

def verdicts (config : Option Config) (m : Model) (entries : List PaginatedEntry) : Report :=
  let messages := entries.map fun e => Message.validation e.operation (Config.fault? config m e.operation)
  let failures := (entries.filter fun e => (Config.fault? config m e.operation).isSome).length
  let total := toString entries.length
  if failures = 0 then ⟨messages ++ [.log (total ++ " paginated operations are valid")], .ok ()⟩
  else
    ⟨messages, .error (.config
      (toString failures ++ " of " ++ total ++ " paginated operations are invalid"))⟩

def reportValidation (c : CommandLine) (access : FileAccess) : Report :=
  let loaded : Except Error (Option Config × Model × List PaginatedEntry) := do
    let m ← c.loadModel access
    let config ← c.loadConfig? access
    return (config, m, ← m.paginatedOperations)
  match loaded with
  | .error e => .failure e
  | .ok (config, m, entries) => verdicts config m entries

def reportPages (c : CommandLine) (access : FileAccess) (run : RunArguments) (x : Exchange) :
    Report × Exchange :=
  match c.prepare access run with
  | .error e => (.failure e, x)
  | .ok r =>
    let pages := r.pages x
    (.ofValues (fun n page => .page r.operation.name n page.body) pages.1, pages.2)

def reportItems (c : CommandLine) (access : FileAccess) (run : RunArguments) (x : Exchange) :
    Report × Exchange :=
  match c.prepare access run with
  | .error e => (.failure e, x)
  | .ok r =>
    if r.operation.items.isNone then
      (.failure (.config ("Operation '" ++ r.operation.name ++ "' has no items member")), x)
    else
      let items := r.items x
      (.ofValues (fun _ item => .item r.operation.name item) items.1, items.2)

def run (c : CommandLine) (access : FileAccess) (x : Exchange) : Report × Exchange :=
  match c.task with
  | .operations => (c.reportOperations access, x)
  | .validate => (c.reportValidation access, x)
  | .pages run => c.reportPages access run x
  | .items run => c.reportItems access run x

end CommandLine

end Pagewise
