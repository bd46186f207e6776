import Pagewise.Document.Basic

/-!
Continuation tokens, and the requests and responses that carry them. A token is opaque: it is copied,
compared with the token that was sent, and asked whether it is blank.
-/
namespace Pagewise

class Cursor (C : Type) where
  same : C → C → Bool
  /-- The token carries no continuation information. -/
  isBlank : C → Bool

instance : Cursor String := { same := fun s t => s == t, isBlank := fun s => s.isEmpty }

instance {α : Type} [BEq α] : Cursor (List α) :=
  { same := fun xs ys => xs == ys, isBlank := List.isEmpty }

instance : Cursor (Members none) :=
  { same := fun ms ns => Document.beqMembers ms ns, isBlank := Members.isEmpty }

namespace Document

def isBlank : Document → Bool
  | .null => true
  | .string s => s.isEmpty
  | .array items => items.isEmpty
  | .object ms => ms.isEmpty
  | .bool _ | .number _ => false

instance : Cursor Document := { same := fun d e => d == e, isBlank := Document.isBlank }

end Document

class CursorRequest (Req : Type) (C : outParam Type) where
  cursor : Req → Option C
  withCursor : Req → Option C → Req

class CursorResponse (Page : Type) (C : outParam Type) where
  nextCursor : Page → Option C
  /-- A boolean member, for end behaviors that look at one. -/
  memberFlag : Page → String → Option Bool := fun _ _ => none

end Pagewise
