import Pagewise.Model.Listing

/-!
What a task has to say, message by message.
-/
namespace Pagewise

inductive Message where
  | operations (entries : List PaginatedEntry)
  | validation (operation : String) (fault : Option Error)
  | log (text : String)
  | page (operation : String) (number : Nat) (body : Document)
  | item (operation : String) (value : Document)

def PaginatedEntry.toDocument (e : PaginatedEntry) : Document :=
  .ofPairs [("operation", .string e.operation),
    ("service", .ofOption (e.service.map Document.string)), ("paginated", e.paginated.toDocument)]

namespace Message

def toDocument : Message → Document
  | .operations entries =>
    .ofPairs [("type", .string "OPERATIONS"),
      ("operations", .array (entries.map PaginatedEntry.toDocument))]
  | .validation operation none =>
    .ofPairs [("type", .string "VALIDATION"), ("operation", .string operation),
      ("valid", .bool true)]
  | .validation operation (some fault) =>
    .ofPairs [("type", .string "VALIDATION"), ("operation", .string operation),
      ("valid", .bool false), ("error", .string fault.message)]
  | .log text =>
    .ofPairs [("type", .string "LOG"),
      ("log", .ofPairs [("level", .string "INFO"), ("message", .string text)])]
  | .page operation number body =>
    .ofPairs [("type", .string "PAGE"), ("operation", .string operation),
      ("page", .ofNat number), ("body", body)]
  | .item operation value =>
    .ofPairs [("type", .string "ITEM"), ("operation", .string operation), ("item", value)]

end Message

end Pagewise
