import Pagewise.Error
import Pagewise.Model.Shape
import Pagewise.Ordered

/-!
Service models: shapes by absolute ID, and the look-up of shapes, kinds and operations. The shapes of
the prelude are known by kind only.
-/
namespace Pagewise

/-- The name in a shape ID, after the last `#`. -/
def shortName (id : String) : String :=
  String.ofList (id.toList.reverse.takeWhile (· != '#')).reverse

structure Model where
  version : String
  shapes : Table Shape

namespace Model

def shape (m : Model) (id : String) : Except Error Shape :=
  match m.shapes.get? id with
  | some s => .ok s
  | none => .error (.unknownShape id)

def after? (lead : List Char) (cs : List Char) : Option (List Char) :=
  if lead.isPrefixOf cs then some (cs.drop lead.length) else none

def preludeKind (name : String) : ShapeKind :=
  if name == "String" then .string
  else if name == "Boolean" || name == "PrimitiveBoolean" then .boolean
  else if ["Byte", "PrimitiveByte", "Short", "PrimitiveShort", "Integer", "PrimitiveInteger", "Long",
      "PrimitiveLong"].contains name then .integer
  else if name == "Unit" then .record
  else .other

def kindOf (m : Model) (id : String) : Except Error ShapeKind :=
  match m.shapes.get? id with
  | some s => .ok s.kind
  | none =>
    match after? "smithy.api#".toList id.toList with
    | some name => .ok (preludeKind (String.ofList name))
    | none => .error (.unknownShape id)

def isAbsolute (name : String) : Bool := name.toList.contains '#'

def operationsNamed (m : Model) (name : String) : List String :=
  Ordered.sort <| (m.shapes.entries.filter fun e =>
    e.2.asOperation?.isSome && shortName e.1 == name).map Prod.fst

/-- The ID of an operation, given by its absolute ID or by a short name that no other one has. -/
def findOperation (m : Model) (name : String) : Except Error String :=
  if isAbsolute name then
    match m.shapes.get? name with
    | some (.operation _) => .ok name
    | some _ => .error (.config ("Shape '" ++ name ++ "' is not an operation"))
    | none => .error (.unknownShape name)
  else
    match m.operationsNamed name with
    | [] => .error (.unknownShape name)
    | [id] => .ok id
    | ids => .error (.ambiguousOperation name (", ".intercalate ids))

end Model

end Pagewise
