import Pagewise.Proofs.Model.Conformance
import Pagewise.Proofs.Paging.Ends

/-!
The items of the pages of a paged operation. Taking the items out of the pages changes nothing of
what a run sends, wherever in a page the items stand, and the items of a page are all that there is
in the collection that they come from.
-/
namespace Pagewise

namespace DocumentPage

/-! ### Entries -/

def entry (member : String × Document) : Document :=
  .ofPairs [("key", .string member.1), ("value", member.2)]

def memberOf? (d : Document) : Option (String × Document) :=
  match d.member? "key", d.member? "value" with
  | some (.string name), some value => some (name, value)
  | _, _ => none

def rebuild (items : List Document) : Document := .ofPairs (items.filterMap memberOf?)

theorem member?_entry (name other : String) (value : Document) :
    (entry (name, value)).member? other =
      ((Members.nil.set "key" (.string name)).set "value" value).get? other := by
  rw [entry, Document.ofPairs, Document.member?_object, Members.ofList, List.foldl_cons,
    List.foldl_cons, List.foldl_nil]

theorem memberOf?_entry (member : String × Document) : memberOf? (entry member) = some member := by
  obtain ⟨name, value⟩ := member
  have key : (entry (name, value)).member? "key" = some (.string name) := by
    rw [member?_entry, Members.get?_set_of_ne (by decide), Members.get?_set_self]
  have held : (entry (name, value)).member? "value" = some value := by
    rw [member?_entry, Members.get?_set_self]
  rw [memberOf?, key, held]

theorem rebuild_entries (ms : Members none) : rebuild (ms.toList.map entry) = .object ms := by
  have back : (ms.toList.map entry).filterMap memberOf? = ms.toList := by
    have each : memberOf? ∘ entry = some := funext memberOf?_entry
    rw [List.filterMap_map, each]
    exact List.filterMap_some
  rw [rebuild, back, Document.ofPairs, Members.ofList_toList]

/-! ### Collections -/

/-- The items of a collection, if there is one: the elements of an array in their order, an entry
for each member of an object and no other, in increasing order of the names, from which the object
can be rebuilt, and anything else as the one item. -/
inductive Itemized : Option Document → Option (List Document) → Prop where
  | absent : Itemized none none
  | elements (items : List Document) : Itemized (some (.array items)) (some items)
  | entries (ms : Members none) (members : List (String × Document))
    (increasing : members.Pairwise fun a b => a.1 < b.1)
    (each : ∀ name value, (name, value) ∈ members ↔ ms.get? name = some value)
    (rebuilt : rebuild (members.map entry) = .object ms) :
    Itemized (some (.object ms)) (some (members.map entry))
  | single (value : Document) (not_array : ∀ items, value ≠ .array items)
    (not_object : ∀ ms, value ≠ .object ms) : Itemized (some value) (some [value])

theorem itemized_itemsOf (value : Document) : Itemized (some value) (some (itemsOf value)) := by
  cases value with
  | array items => exact .elements items
  | object ms =>
    exact .entries ms ms.toList (Members.pairwise_toList ms).1 (fun _ _ => Members.mem_toList ms)
      (rebuild_entries ms)
  | _ => exact .single _ nofun nofun

theorem itemized_items? {op : PagedOperation} {p : Path} (given : op.items = some p)
    (body : Document) : Itemized (p.read body) (mk op body).items? := by
  have read : (mk op body).items? = (p.read body).map itemsOf := items?_eq given
  rw [read]
  cases p.read body with
  | none => exact .absent
  | some value => exact itemized_itemsOf value

end DocumentPage

namespace PagedOperation

variable {σ E : Type}

/-- Over any documents and errors, a stream of pages and a stream of their items can both be polled
to their ends, and then they have sent the same documents and left the same behind. All items of all
pages have been given, each error in the place of its page. The items of a page are those of the
collection that is read from it. -/
theorem items_alongside (op : PagedOperation) (F : Fetcher σ Document E Document)
    (input : Document) (s : σ) :
    let q := PageStream.polled (op.pages F.recorded)
    let first := (op.paginate input, (s, ([] : List Document)))
    let pages n := steps q.poll n first
    let items n := steps (q.pollForItem DocumentPage.items?) n (first, [])
    (∃ n, (q.poll (pages n).2).1 = .ready none) ∧
    (∃ n, (q.pollForItem DocumentPage.items? (items n).2).1 = .ready none) ∧
    (∀ m n, (q.poll (pages m).2).1 = .ready none →
      (q.pollForItem DocumentPage.items? (items n).2).1 = .ready none →
      (q.pollForItem DocumentPage.items? (items n).2).2.1.2 = (q.poll (pages m).2).2.2 ∧
      (answersIn (items n).1).filterMap id =
        ((answersIn (pages m).1).filterMap id).flatMap (itemsIn DocumentPage.items?)) ∧
    ∀ p, op.items = some p → ∀ body,
      DocumentPage.Itemized (p.read body) (DocumentPage.mk op body).items? := by
  intro q first pages items
  refine ⟨PageStream.exists_ended_pages _ _ _ _, PageStream.exists_ended_items _ _ _ _ _, ?_,
    fun p given body => DocumentPage.itemized_items? given body⟩
  intro m n ended ended'
  have of_pages : ((answersIn (pages m).1).filterMap id, (q.poll (pages m).2).2.2) =
      run (op.pages F.recorded) op.endBehavior ⟨op, input⟩ (s, []) :=
    PageStream.pages_of_ended _ _ _ _ ended
  have of_items : ((answersIn (items n).1).filterMap id,
      (q.pollForItem DocumentPage.items? (items n).2).2.1.2) = _ :=
    PageStream.items_of_ended _ _ _ _ _ ended'
  rw [← of_pages] at of_items
  obtain ⟨given, left⟩ := Prod.mk.inj of_items
  exact ⟨left, given⟩

theorem items_alongside_token :
    let next : Path := ⟨["Next"], by decide, by decide⟩
    let op : PagedOperation :=
      ⟨"List", ⟨["Token"], by decide, by decide⟩, next, some next, none, .outputTokenEmpty, rfl⟩
    let token : Document := .ofPairs [("a", .ofNat 1)]
    let body : Document := .ofPairs [("Next", token)]
    let F : Fetcher (Script Document String Document) Document String Document :=
      Script.fetcher "exhausted"
    let q := PageStream.polled (op.pages F.recorded)
    let first := (op.paginate .emptyObject,
      (Script.ofAnswers [⟨1, .ok body⟩, ⟨0, .ok .emptyObject⟩], ([] : List Document)))
    let pages n := steps q.poll n first
    let items n := steps (q.pollForItem DocumentPage.items?) n (first, [])
    (q.poll (pages 3).2).1 = .ready none ∧
    (∃ n, (q.pollForItem DocumentPage.items? (items n).2).1 = .ready none ∧
      (q.pollForItem DocumentPage.items? (items n).2).2.1.2.2 =
        [.emptyObject, .ofPairs [("Token", token)]] ∧
      (answersIn (items n).1).filterMap id =
        [.ok (.ofPairs [("key", .string "a"), ("value", .ofNat 1)])]) ∧
    DocumentPage.Itemized (some token) (DocumentPage.mk op body).items? := by
  intro next op token body F q first pages items
  obtain ⟨_, ⟨n, ended⟩, alike, itemized⟩ := op.items_alongside F .emptyObject first.2.1
  have finished : (q.poll (pages 3).2).1 = .ready none := rfl
  obtain ⟨left, given⟩ := alike 3 n finished ended
  refine ⟨finished, ⟨n, ended, ?_, given.trans rfl⟩, itemized next rfl body⟩
  exact (congrArg Prod.snd left).trans rfl

end PagedOperation

end Pagewise
