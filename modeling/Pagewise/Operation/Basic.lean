import Pagewise.Cursor.EndBehavior
import Pagewise.Document.Path
import Pagewise.Document.Printer

/-!
A paged operation, bound to documents: where the token stands in the input and in the output, and,
where the operation has them, the items and the page size.
-/
namespace Pagewise

structure PagedOperation where
  name : String
  inputToken : Path
  outputToken : Path
  items : Option Path
  pageSize : Option Path
  endBehavior : EndBehavior
  inputToken_top : inputToken.isTopLevel = true

namespace PagedOperation

/-- The input token has to be a top-level member of the input. -/
def make (name : String) (inputToken outputToken : Path) : Except Error PagedOperation :=
  if h : inputToken.isTopLevel then
    .ok ⟨name, inputToken, outputToken, none, none, default, h⟩
  else
    .error (.invalidPath inputToken.dotted "input token must be a top-level input member")

def ofPaths (name inputToken outputToken : String) : Except Error PagedOperation := do
  make name (← Path.parse inputToken) (← Path.parse outputToken)

/-- Make the caller's input ready for a run: an object, with the page size in its member if one is
asked for. -/
def prepareInput (op : PagedOperation) (input : Document) (pageSize : Option Nat) :
    Except Error Document := do
  let input ← match input with
    | .null => .ok .emptyObject
    | .object ms => .ok (.object ms)
    | other => .error (.invalidValue "input" ("expected a JSON object, got " ++ other.compact))
  match pageSize with
  | none => return input
  | some size =>
    match op.pageSize with
    | none => .error (.config ("Operation '" ++ op.name ++ "' has no page size member"))
    | some member => return member.write (some (.ofNat size)) input

end PagedOperation

end Pagewise
