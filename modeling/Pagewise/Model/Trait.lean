import Pagewise.Json.Record
import Pagewise.Document.Basic

/-!
The value of the `paginated` trait, and its defaults taken from a service.
-/
namespace Pagewise

structure PaginatedTrait where
  inputToken : Option String
  outputToken : Option String
  items : Option String
  pageSize : Option String
  deriving DecidableEq, Repr, Inhabited

namespace PaginatedTrait

def id : String := "smithy.api#paginated"

/-- Own values, filled from defaults where unset. -/
def merge (own defaults : PaginatedTrait) : PaginatedTrait where
  inputToken := own.inputToken <|> defaults.inputToken
  outputToken := own.outputToken <|> defaults.outputToken
  items := own.items <|> defaults.items
  pageSize := own.pageSize <|> defaults.pageSize

def ofJson? (j : Json) : Option PaginatedTrait := do
  let fields ← j.record? ["inputToken", "outputToken", "items", "pageSize"] 0
  let text := fun name => Json.optional Json.toString? (fields.lookup name)
  return ⟨← text "inputToken", ← text "outputToken", ← text "items", ← text "pageSize"⟩

def ofDocument? (d : Document) : Option PaginatedTrait := ofJson? d.toJson

def toDocument (t : PaginatedTrait) : Document :=
  .ofPairs <| [("inputToken", t.inputToken), ("outputToken", t.outputToken), ("items", t.items),
    ("pageSize", t.pageSize)].filterMap fun e => e.2.map fun text => (e.1, .string text)

end PaginatedTrait

end Pagewise
