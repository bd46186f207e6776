import Pagewise.Model.Service
import Pagewise.Model.Trait

/-!
The paged operations of a model. An operation is paged if it carries the `paginated` trait; values it
leaves open are those of the trait of its owner, the first service that binds it.
-/
namespace Pagewise

structure PaginatedEntry where
  operation : String
  service : Option String
  paginated : PaginatedTrait
  deriving DecidableEq, Repr

namespace Model

def services (m : Model) : List (String × ServiceShape) :=
  Ordered.sortOn Prod.fst <| m.shapes.entries.filterMap fun e => e.2.asService?.map (e.1, ·)

/-- The first service, by ID, that binds an operation. -/
def ownerOf (m : Model) (operation : String) : Option (String × ServiceShape) :=
  m.services.find? fun s => (m.operationsOf s.2).contains operation

def paginatedIn (traits : Traits) : Except Error (Option PaginatedTrait) :=
  match traits.get? PaginatedTrait.id with
  | none => .ok none
  | some value =>
    match PaginatedTrait.ofDocument? value with
    | some t => .ok (some t)
    | none => .error (.malformedModel "malformed paginated trait")

def entryOf (m : Model) (id : String) (operation : OperationShape) :
    Except Error (Option PaginatedEntry) := do
  match ← paginatedIn operation.traits with
  | none => return none
  | some own =>
    match m.ownerOf id with
    | none => return some ⟨id, none, own⟩
    | some (service, shape) =>
      let defaults ← paginatedIn shape.traits
      return some ⟨id, some service, own.merge (defaults.getD default)⟩

/-- Every paged operation, in order of the IDs. -/
def paginatedOperations (m : Model) : Except Error (List PaginatedEntry) := do
  let entries ← m.shapes.entries.mapM fun e =>
    match e.2.asOperation? with
    | some operation => m.entryOf e.1 operation
    | none => .ok none
  return Ordered.sortOn PaginatedEntry.operation (entries.filterMap id)

def paginatedTrait (m : Model) (operation : String) : Except Error PaginatedTrait := do
  let id ← m.findOperation operation
  match (← m.paginatedOperations).find? fun e => e.operation == id with
  | some entry => return entry.paginated
  | none => .error (.notPaginated id)

end Model

end Pagewise
