import Pagewise.Json.Record
import Pagewise.Json.Text
import Pagewise.Model.Basic

/-!
Reading a model from its JSON form. Unknown fields and shape types are accepted and ignored.
-/
namespace Pagewise.Model

open Json

def traits? (field : Option Json) : Option Traits :=
  defaulted .nil (fun j => (Document.ofJson j).asObject?) field

/-- Values by name; where a name is repeated the last one counts, and all have to be readable. -/
def table? {α : Type} (read : Json → Option α) (j : Json) : Option (Table α) :=
  (j.toMembersOf? read).map Table.ofList

def reference? (j : Json) : Option String := do
  let fields ← j.record? ["target"] 1
  required toString? (fields.lookup "target")

def references? (field : Option Json) : Option (List String) :=
  defaulted [] (toListOf? reference?) field

def member? (j : Json) : Option ShapeMember := do
  let fields ← j.record? ["target", "traits"] 1
  return ⟨← required toString? (fields.lookup "target"), ← traits? (fields.lookup "traits")⟩

def simple? (j : Json) : Option Traits := do
  let fields ← j.record? ["traits"] 0
  traits? (fields.lookup "traits")

def aggregate? (j : Json) : Option AggregateShape := do
  let fields ← j.record? ["members", "traits"] 0
  return ⟨← defaulted .empty (table? member?) (fields.lookup "members"),
    ← traits? (fields.lookup "traits")⟩

def list? (j : Json) : Option ListShape := do
  let fields ← j.record? ["member", "traits"] 1
  return ⟨← required member? (fields.lookup "member"), ← traits? (fields.lookup "traits")⟩

def map? (j : Json) : Option MapShape := do
  let fields ← j.record? ["key", "value", "traits"] 2
  return ⟨← required member? (fields.lookup "key"), ← required member? (fields.lookup "value"),
    ← traits? (fields.lookup "traits")⟩

def operation? (j : Json) : Option OperationShape := do
  let fields ← j.record? ["input", "output", "traits"] 2
  return ⟨← optional reference? (fields.lookup "input"),
    ← optional reference? (fields.lookup "output"), ← traits? (fields.lookup "traits")⟩

def service? (j : Json) : Option ServiceShape := do
  let fields ← j.record? ["version", "operations", "resources", "traits"] 0
  return ⟨← optional toString? (fields.lookup "version"), ← references? (fields.lookup "operations"),
    ← references? (fields.lookup "resources"), ← traits? (fields.lookup "traits")⟩

def resource? (j : Json) : Option ResourceShape := do
  let fields ← j.record? ["create", "put", "read", "update", "delete", "list", "operations",
    "collectionOperations", "resources", "traits"] 0
  let one := fun name => optional reference? (fields.lookup name)
  let many := fun name => references? (fields.lookup name)
  return ⟨← one "create", ← one "put", ← one "read", ← one "update", ← one "delete", ← one "list",
    ← many "operations", ← many "collectionOperations", ← many "resources",
    ← traits? (fields.lookup "traits")⟩

def simpleType? (tag : String) : Option SimpleType :=
  [("string", .string), ("enum", .enum), ("boolean", .boolean), ("byte", .byte), ("short", .short),
    ("integer", .integer), ("intEnum", .intEnum), ("long", .long), ("float", .float),
    ("double", .double), ("bigInteger", .bigInteger), ("bigDecimal", .bigDecimal),
    ("timestamp", .timestamp), ("blob", .blob), ("document", .document)].lookup tag

def shape? (j : Json) : Option Shape := do
  let (tag, rest) ← j.tagged?
  match tag with
  | "structure" => (aggregate? rest).map .record
  | "union" => (aggregate? rest).map .union
  | "list" => (list? rest).map .list
  | "set" => (list? rest).map .list
  | "map" => (map? rest).map .map
  | "operation" => (operation? rest).map .operation
  | "service" => (service? rest).map .service
  | "resource" => (resource? rest).map .resource
  | _ =>
    match simpleType? tag with
    | some type => (simple? rest).map (.simple type)
    | none => if rest.isBareRecord then some .unknown else none

def ofJson? (j : Json) : Option Model := do
  let fields ← j.record? ["smithy", "shapes"] 1
  return ⟨← required toString? (fields.lookup "smithy"),
    ← defaulted .empty (table? shape?) (fields.lookup "shapes")⟩

def isKnownVersion (version : String) : Bool :=
  let major := version.toList.takeWhile (· != '.')
  major == ['1'] || major == ['2']

def ofText (text : String) : Except Error Model :=
  match (parseRecord ["smithy", "shapes"] text).bind ofJson? with
  | none => .error (.malformedModel "no model document")
  | some m =>
    if isKnownVersion m.version then .ok m
    else .error (.invalidValue "smithy" ("unsupported Smithy version '" ++ m.version ++ "'"))

end Pagewise.Model
