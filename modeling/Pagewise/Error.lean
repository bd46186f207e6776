import Pagewise.Url.Error

/-!
Causes of failure. Configuration errors arise while a run is set up and keep it from starting;
retryable ones are transient failures of a single attempt. Context turns an error into plain text,
which is neither. An overflow is not handed on by anybody: it is the program itself that stops.
-/
namespace Pagewise

inductive Error where
  | config (text : String)
  | missingField (field : String)
  | invalidValue (field text : String)
  | invalidPath (path text : String)
  | unknownShape (shape : String)
  | unknownMember (shape member : String)
  | notPaginated (operation : String)
  | ambiguousOperation (name candidates : String)
  | malformedModel (detail : String)
  | malformedYaml (detail : String)
  | malformedJson (detail : String)
  | connection (detail : String)
  | status (code : Nat) (body : String)
  | rateLimited (seconds : Nat)
  | timeout (milliseconds : Nat)
  | invalidUrl (reason : UrlError)
  | io (detail : String)
  | fileNotFound (path : String)
  | other (text : String)
  | external (text : String)
  /-- A word does not hold the sum of two others. -/
  | overflow
  deriving DecidableEq, Repr

namespace Error

def message : Error → String
  | .config text => "Configuration error: " ++ text
  | .missingField field => "Missing required config field: " ++ field
  | .invalidValue field text => "Invalid config value for '" ++ field ++ "': " ++ text
  | .invalidPath path text => "Invalid member path '" ++ path ++ "': " ++ text
  | .unknownShape shape => "Shape '" ++ shape ++ "' not found in model"
  | .unknownMember shape member =>
    "Member '" ++ member ++ "' does not exist on shape '" ++ shape ++ "'"
  | .notPaginated operation => "Operation '" ++ operation ++ "' is not paginated"
  | .ambiguousOperation name candidates =>
    "Operation name '" ++ name ++ "' is ambiguous, candidates: " ++ candidates
  | .malformedModel detail => "Failed to parse Smithy model: " ++ detail
  | .malformedYaml detail => "Failed to parse YAML: " ++ detail
  | .malformedJson detail => "Failed to parse JSON: " ++ detail
  | .connection detail => "HTTP request failed: " ++ detail
  | .status code body => "HTTP " ++ toString code ++ ": " ++ body
  | .rateLimited seconds => "Rate limited, retry after " ++ toString seconds ++ "s"
  | .timeout milliseconds => "Request timeout after " ++ toString milliseconds ++ "ms"
  | .invalidUrl reason => "Invalid URL: " ++ reason.message
  | .io detail => "IO error: " ++ detail
  | .fileNotFound path => "File not found: " ++ path
  | .other text => text
  | .external text => text
  | .overflow => "attempt to add with overflow"

/-- Raised while pagination is being set up. -/
def isConfiguration : Error → Bool
  | .config _ | .missingField _ | .invalidValue _ _ | .invalidPath _ _ | .unknownShape _
  | .unknownMember _ _ | .notPaginated _ | .ambiguousOperation _ _ | .malformedModel _
  | .malformedYaml _ => true
  | _ => false

def isRetryableStatus (code : Nat) : Bool :=
  code == 429 || code == 500 || code == 502 || code == 503 || code == 504

def isRetryable : Error → Bool
  | .connection _ | .rateLimited _ | .timeout _ => true
  | .status code _ => isRetryableStatus code
  | _ => false

def withContext (text : String) (e : Error) : Error := .other (text ++ ": " ++ e.message)

end Error

end Pagewise
