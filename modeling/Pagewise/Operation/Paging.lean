import Pagewise.Operation.Basic
import Pagewise.Paging.Iterator
import Pagewise.Paging.Stream

/-!
Input and output documents of a paged operation as requests and pages, and runs over fetchers of
documents.
-/
namespace Pagewise

structure DocumentRequest where
  operation : PagedOperation
  body : Document

structure DocumentPage where
  operation : PagedOperation
  body : Document

instance : CursorRequest DocumentRequest Document where
  cursor r := r.operation.inputToken.read r.body
  withCursor r token := { r with body := r.operation.inputToken.write token r.body }

namespace DocumentPage

def flagOf : Document → Option Bool
  | .bool b => some b
  | .string "true" => some true
  | .string "false" => some false
  | _ => none

def memberFlag (page : DocumentPage) (member : String) : Option Bool :=
  match Path.parse member with
  | .error _ => none
  | .ok p => (p.read page.body).bind flagOf

instance : CursorResponse DocumentPage Document where
  nextCursor page := page.operation.outputToken.read page.body
  memberFlag := memberFlag

/-- The items of a collection: elements of an array, entries of an object; anything else is an item
by itself. -/
def itemsOf : Document → List Document
  | .array items => items
  | .object ms =>
    ms.toList.map fun m => .ofPairs [("key", .string m.1), ("value", m.2)]
  | other => [other]

/-- The items of a page, absent if the operation has none or the page has none. -/
def items? (page : DocumentPage) : Option (List Document) :=
  page.operation.items.bind fun p => (p.take page.body).1.map itemsOf

end DocumentPage

namespace PagedOperation

variable {σ E : Type}

def fetch (op : PagedOperation) (f : Fetch σ Document E Document) :
    Fetch σ DocumentRequest E DocumentPage :=
  (f.comap DocumentRequest.body).map fun body => ⟨op, body⟩

def pages (op : PagedOperation) (F : Fetcher σ Document E Document) :
    Fetcher σ DocumentRequest E DocumentPage :=
  (F.comap DocumentRequest.body).map fun body => ⟨op, body⟩

def paginate (op : PagedOperation) (input : Document) :
    PageStream DocumentRequest Document E DocumentPage :=
  .start ⟨op, input⟩ op.endBehavior

def paginateBlocking (op : PagedOperation) (input : Document) :
    PageIterator DocumentRequest Document :=
  .start ⟨op, input⟩ op.endBehavior

end PagedOperation

end Pagewise
