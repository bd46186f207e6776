import Pagewise.Table
import Pagewise.Document.Basic

/-!
Shapes of a service model: what is needed of them to find paged operations and check their member
paths.
-/
namespace Pagewise

abbrev Traits := Members none

structure ShapeMember where
  target : String
  traits : Traits

structure AggregateShape where
  members : Table ShapeMember
  traits : Traits

structure ListShape where
  member : ShapeMember
  traits : Traits

structure MapShape where
  key : ShapeMember
  value : ShapeMember
  traits : Traits

structure OperationShape where
  input : Option String
  output : Option String
  traits : Traits

structure ServiceShape where
  version : Option String
  operations : List String
  resources : List String
  traits : Traits

structure ResourceShape where
  create : Option String
  put : Option String
  read : Option String
  update : Option String
  delete : Option String
  list : Option String
  operations : List String
  collectionOperations : List String
  resources : List String
  traits : Traits

/-- Operations bound directly to a resource: those of its life cycle, then the others. -/
def ResourceShape.boundOperations (r : ResourceShape) : List String :=
  [r.create, r.put, r.read, r.update, r.delete, r.list].filterMap id ++ r.operations ++
    r.collectionOperations

inductive SimpleType where
  | string | enum | boolean | byte | short | integer | intEnum | long | float | double
  | bigInteger | bigDecimal | timestamp | blob | document
  deriving DecidableEq, Repr

/-- A coarse class of shapes, which member paths are checked against. -/
inductive ShapeKind where
  | record | union | list | map | string | boolean | integer | operation | service | other
  deriving DecidableEq, Repr

def ShapeKind.name : ShapeKind → String
  | .record => "Structure"
  | .union => "Union"
  | .list => "List"
  | .map => "Map"
  | .string => "String"
  | .boolean => "Boolean"
  | .integer => "Integer"
  | .operation => "Operation"
  | .service => "Service"
  | .other => "Other"

def SimpleType.kind : SimpleType → ShapeKind
  | .string | .enum => .string
  | .boolean => .boolean
  | .byte | .short | .integer | .intEnum | .long => .integer
  | .float | .double | .bigInteger | .bigDecimal | .timestamp | .blob | .document => .other

inductive Shape where
  | record (shape : AggregateShape)
  | union (shape : AggregateShape)
  | list (shape : ListShape)
  | map (shape : MapShape)
  | operation (shape : OperationShape)
  | service (shape : ServiceShape)
  | resource (shape : ResourceShape)
  | simple (type : SimpleType) (traits : Traits)
  | unknown

namespace Shape

def kind : Shape → ShapeKind
  | .record _ => .record
  | .union _ => .union
  | .list _ => .list
  | .map _ => .map
  | .operation _ => .operation
  | .service _ => .service
  | .simple type _ => type.kind
  | .resource _ | .unknown => .other

def traits? : Shape → Option Traits
  | .record s | .union s => some s.traits
  | .list s => some s.traits
  | .map s => some s.traits
  | .operation s => some s.traits
  | .service s => some s.traits
  | .resource s => some s.traits
  | .simple _ traits => some traits
  | .unknown => none

def asOperation? : Shape → Option OperationShape
  | .operation s => some s
  | _ => none

def asService? : Shape → Option ServiceShape
  | .service s => some s
  | _ => none

def members? : Shape → Option (Table ShapeMember)
  | .record s | .union s => some s.members
  | _ => none

end Shape

end Pagewise
