import Pagewise.Json.Basic

/-!
Records in JSON. A record is written as an object, where members with other names are ignored and a
known name may not be repeated, or as the array of its fields in order, where fields at the end may be
missing. A tagged record carries its tag as the member `type` or as the first element.
-/
namespace Pagewise.Json

/-- The fields that are present, by name. As an array the record has at least `least` fields. -/
def record? (names : List String) (least : Nat) : Json → Option (List (String × Json))
  | .object members =>
    let known := members.filter fun m => names.contains m.1
    if (known.map Prod.fst).Nodup then some known else none
  | .array items =>
    if least ≤ items.length && items.length ≤ names.length then some (names.zip items) else none
  | _ => none

def tagged? : Json → Option (String × Json)
  | .object members =>
    match members.filter fun m => m.1 == "type" with
    | [(_, .string tag)] => some (tag, .object (members.filter fun m => m.1 != "type"))
    | _ => none
  | .array (.string tag :: items) => some (tag, .array items)
  | _ => none

def isBareRecord : Json → Bool
  | .object _ => true
  | .array items => items.isEmpty
  | _ => false

/-! ### Fields -/

variable {α : Type}

def required (read : Json → Option α) (field : Option Json) : Option α := field.bind read

def defaulted (default : α) (read : Json → Option α) : Option Json → Option α
  | none => some default
  | some j => read j

def optional (read : Json → Option α) : Option Json → Option (Option α)
  | none => some none
  | some .null => some none
  | some j => (read j).map some

end Pagewise.Json
