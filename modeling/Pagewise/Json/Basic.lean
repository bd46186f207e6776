import Pagewise.Document.Number

/-!
JSON as it is written: an object is the list of its members in order, repeated names included. What
a repeated name means depends on what the text is read as, so nothing is decided here.
-/
namespace Pagewise

inductive Json where
  | null
  | bool (value : Bool)
  | number (value : Number)
  | string (value : String)
  | array (items : List Json)
  | object (members : List (String × Json))

namespace Json

instance : Inhabited Json := ⟨.null⟩

def toString? : Json → Option String
  | .string s => some s
  | _ => none

def toNatBelow? (bound : Nat) : Json → Option Nat
  | .number n => n.toNat?.filter (· < bound)
  | _ => none

def toListOf? {α : Type} (read : Json → Option α) : Json → Option (List α)
  | .array items => items.mapM read
  | _ => none

/-- Named values read one by one, in order; the caller decides what a repeated name means. -/
def toMembersOf? {α : Type} (read : Json → Option α) : Json → Option (List (String × α))
  | .object members => members.mapM fun m => (read m.2).map (m.1, ·)
  | _ => none

end Json

end Pagewise
