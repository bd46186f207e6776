import Pagewise.Cursor.Basic
import Pagewise.Json.Record

/-!
The rule that decides, after each page, whether there is another one.
-/
namespace Pagewise

inductive EndBehavior where
  | outputTokenEmpty
  | identicalToken
  | truncationMember (member : String)
  deriving DecidableEq, Repr

inductive Verdict where
  | proceed
  | stop
  deriving DecidableEq, Repr

namespace EndBehavior

instance : Inhabited EndBehavior := ⟨.outputTokenEmpty⟩

def verdict (proceed : Bool) : Verdict := if proceed then .proceed else .stop

/-- The verdict on a page fetched with `used` that holds the token `next`. -/
def decide {C : Type} [Cursor C] (behavior : EndBehavior) (used next : Option C)
    (flag : String → Option Bool) : Verdict :=
  match behavior with
  | .outputTokenEmpty => verdict (next.any fun token => !Cursor.isBlank token)
  | .identicalToken => verdict (next.any fun token => !used.any (Cursor.same · token))
  | .truncationMember member => verdict (flag member == some true)

def flagMember? : EndBehavior → Option String
  | .truncationMember member => some member
  | _ => none

/-! ### Written form -/

def typeName : EndBehavior → String
  | .outputTokenEmpty => "output_token_empty"
  | .identicalToken => "identical_token"
  | .truncationMember _ => "truncation_member"

def toDocument : EndBehavior → Document
  | .truncationMember member =>
    .ofPairs [("type", .string "truncation_member"), ("member", .string member)]
  | b => .ofPairs [("type", .string b.typeName)]

def ofJson? (j : Json) : Option EndBehavior := do
  let (tag, rest) ← j.tagged?
  match tag with
  | "output_token_empty" => if rest.isBareRecord then some .outputTokenEmpty else none
  | "identical_token" => if rest.isBareRecord then some .identicalToken else none
  | "truncation_member" =>
    let fields ← rest.record? ["member"] 1
    return .truncationMember (← Json.required Json.toString? (fields.lookup "member"))
  | _ => none

end EndBehavior

end Pagewise
