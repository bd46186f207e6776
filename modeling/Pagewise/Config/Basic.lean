import Pagewise.Cursor.EndBehavior
import Pagewise.Http.Client
import Pagewise.Model.Basic

/-!
The configuration of runs against a live endpoint: the client's settings, and for each operation how
its end is found and how large its pages are.
-/
namespace Pagewise

structure OperationSettings where
  endBehavior : Option EndBehavior
  pageSize : Option Nat
  deriving DecidableEq, Repr, Inhabited

structure Config where
  endpoint : String
  targetLead : Option String
  http : HttpSettings
  /-- Settings by the short name or the shape ID of an operation. -/
  operations : Table OperationSettings
  /-- Zero stands for no limit. -/
  pageLimit : Nat

namespace Config

/-- Settings of an operation, looked up by its ID and then by its short name. -/
def operation? (c : Config) (id : String) : Option OperationSettings :=
  c.operations.get? id <|> c.operations.get? (shortName id)

def endBehaviorOf (c : Config) (id : String) : EndBehavior :=
  ((c.operation? id).bind OperationSettings.endBehavior).getD default

def pageSizeOf (c : Config) (id : String) : Option Nat :=
  (c.operation? id).bind OperationSettings.pageSize

def maxPages? (c : Config) : Option Nat := if c.pageLimit = 0 then none else some c.pageLimit

/-! ### Checks -/

def positive : String := "must be greater than 0"

def checkOperation (name : String) (s : OperationSettings) : Except Error Unit :=
  if s.pageSize = some 0 then .error (.invalidValue ("operations." ++ name ++ ".page_size") positive)
  else match s.endBehavior with
    | some (.truncationMember member) =>
      if Text.allBlank member then
        .error (.invalidValue ("operations." ++ name ++ ".end_behavior.member") "cannot be empty")
      else .ok ()
    | _ => .ok ()

def checkOperations : List (String × OperationSettings) → Except Error Unit
  | [] => .ok ()
  | (name, s) :: rest =>
    match checkOperation name s with
    | .error e => .error e
    | .ok () => checkOperations rest

def validate (c : Config) : Except Error Unit :=
  if Text.allBlank c.endpoint then .error (.missingField "endpoint")
  else match Url.parse c.endpoint with
    | .error e => .error (.invalidValue "endpoint" e.message)
    | .ok _ =>
      if c.http.timeoutSeconds = 0 then .error (.invalidValue "http.timeout_secs" positive)
      else checkOperations c.operations.entries

def operationClient (c : Config) : Except Error OperationClient := do
  let client ← HttpClient.new c.http.toClient
  OperationClient.new client c.endpoint (Text.nonEmpty? c.targetLead)

/-! ### Written form -/

def operationToDocument (s : OperationSettings) : Document :=
  .ofPairs [("end_behavior", .ofOption (s.endBehavior.map EndBehavior.toDocument)),
    ("page_size", .ofOption (s.pageSize.map Document.ofNat))]

def toDocument (c : Config) : Document :=
  .ofPairs [("endpoint", .string c.endpoint),
    ("target_prefix", .ofOption (c.targetLead.map Document.string)), ("http", c.http.toDocument),
    ("operations", .ofPairs (c.operations.entries.map fun e => (e.1, operationToDocument e.2))),
    ("max_pages", .ofNat c.pageLimit)]

end Config

end Pagewise
