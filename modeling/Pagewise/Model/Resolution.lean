import Pagewise.Model.Listing
import Pagewise.Operation.Basic

/-!
Resolution: a paged operation of a model becomes one that is bound to documents. Every path is walked
through the shapes of the input and the output and has to end at a shape of a fitting kind.
-/
namespace Pagewise.Model

/-- Walk member names from a shape. Errors carry the whole path. -/
def walk (m : Model) (path : Path) : List String → String → Except Error String
  | [], current => .ok current
  | segment :: rest, current => do
    match (← m.shape current).members? with
    | none =>
      .error (.invalidPath path.dotted
        ("'" ++ current ++ "' is not a structure, cannot select '" ++ segment ++ "'"))
    | some members =>
      match members.get? segment with
      | none => .error (.unknownMember current segment)
      | some member => walk m path rest member.target

def memberTarget (m : Model) (root : String) (path : Path) : Except Error String :=
  m.walk path path.segments root

def kindNames (kinds : List ShapeKind) : String :=
  "[" ++ ", ".intercalate (kinds.map ShapeKind.name) ++ "]"

def expectKind (m : Model) (root : String) (path : Path) (allowed : List ShapeKind) :
    Except Error Unit := do
  let target ← m.memberTarget root path
  let kind ← m.kindOf target
  if allowed.contains kind then return ()
  else
    .error (.invalidPath path.dotted ("targets '" ++ target ++ "' (" ++ kind.name ++
      "), expected one of " ++ kindNames allowed))

def tokenKinds : List ShapeKind := [.string, .map]

def collectionKinds : List ShapeKind := [.list, .map]

def orFail {α : Type} (value : Option α) (e : Error) : Except Error α :=
  match value with
  | some a => .ok a
  | none => .error e

def optionalPath (m : Model) (read : String → Except Error Path) (root : String)
    (allowed : List ShapeKind) : Option String → Except Error (Option Path)
  | none => .ok none
  | some text => do
    let path ← read text
    m.expectKind root path allowed
    return some path

/-- Bind an operation, given by absolute ID or short name, to documents. -/
def resolve (m : Model) (operation : String) (behavior : EndBehavior) :
    Except Error PagedOperation := do
  let id ← m.findOperation operation
  let shape ← match ← m.shape id with
    | .operation shape => .ok shape
    | _ => .error (.config ("Shape '" ++ id ++ "' is not an operation"))
  let paginated ← m.paginatedTrait id
  let input ← orFail shape.input (.config ("Operation '" ++ id ++ "' has no input"))
  let output ← orFail shape.output (.config ("Operation '" ++ id ++ "' has no output"))
  let inputToken ← orFail paginated.inputToken (.missingField (id ++ ": paginated.inputToken"))
  let inputToken ← Path.member inputToken
  m.expectKind input inputToken tokenKinds
  let outputToken ← orFail paginated.outputToken (.missingField (id ++ ": paginated.outputToken"))
  let outputToken ← Path.parse outputToken
  m.expectKind output outputToken tokenKinds
  let resolved ← PagedOperation.make (shortName id) inputToken outputToken
  let items ← m.optionalPath Path.parse output collectionKinds paginated.items
  let pageSize ← m.optionalPath Path.member input [.integer] paginated.pageSize
  let _ ← m.optionalPath Path.parse output [.boolean] behavior.flagMember?
  return { resolved with items := items, pageSize := pageSize, endBehavior := behavior }

end Pagewise.Model
