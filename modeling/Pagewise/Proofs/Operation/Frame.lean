import Pagewise.Proofs.Model.Resolution
import Pagewise.Proofs.Operation.Documents

/-!
What the documents of a run have in common with the input of the caller. Preparing the input sets
the page size, a run sets the token, and a resolved operation keeps the two members apart; everything
else is sent as it was given.
-/
namespace Pagewise.PagedOperation

variable {E : Type} {op : PagedOperation} {input prepared : Document} {size : Option Nat}

def SizeApart (op : PagedOperation) : Prop :=
  ∀ p ∈ op.pageSize, p.isTopLevel = true ∧ p.top ≠ op.inputToken.top

/-! ### Prepared input -/

structure Prepared (op : PagedOperation) (input : Document) (size : Option Nat)
    (ms : Members none) : Prop where
  others : ∀ name, (∀ p ∈ op.pageSize, size.isSome = true → name ≠ p.top) →
    ms.get? name = input.member? name
  size : ∀ n ∈ size, ∃ p ∈ op.pageSize, ms.get? p.top = some (.ofNat n)

theorem prepared_of_prepareInput (apart : op.SizeApart)
    (h : op.prepareInput input size = .ok prepared) :
    ∃ ms, prepared = .object ms ∧ op.Prepared input size ms := by
  -- Null stands for an object without members, and nothing but an object is accepted.
  obtain ⟨ms, same, h⟩ : ∃ ms : Members none, (∀ name, ms.get? name = input.member? name) ∧
      op.prepareInput (.object ms) size = .ok prepared := by
    cases input with
    | null => exact ⟨.nil, fun _ => rfl, h⟩
    | object ms => exact ⟨ms, fun _ => rfl, h⟩
    | _ => cases h
  cases size with
  | none =>
    obtain rfl : .object ms = prepared := Except.ok.inj h
    exact ⟨ms, rfl, fun name _ => same name, by simp⟩
  | some n =>
    unfold prepareInput at h
    cases member : op.pageSize with
    | none =>
      rw [member] at h
      cases h
    | some p =>
      rw [member] at h
      obtain rfl : p.write (some (.ofNat n)) (.object ms) = prepared := Except.ok.inj h
      refine ⟨_, Path.write_object (apart p member).1 _ ms, ?_, ?_⟩
      · intro name other
        rw [Members.get?_assign, if_neg (other p member rfl), same]
      · rintro _ ⟨⟩
        exact ⟨p, member, by rw [Members.get?_assign, if_pos rfl]⟩

/-! ### Documents of a run -/

/-- Documents that are the input of the caller but for the page size, if one is given, and the token:
first that of the caller, then that of the page before. -/
structure Framed (op : PagedOperation) (o : Outcomes E Document) (input : Document)
    (size : Option Nat) (sent : List Document) : Prop where
  objects : ∀ d ∈ sent, ∃ ms, d = .object ms
  others : ∀ d ∈ sent, ∀ name, name ≠ op.inputToken.top →
    (∀ p ∈ op.pageSize, size.isSome = true → name ≠ p.top) → d.member? name = input.member? name
  page_size : ∀ n ∈ size, ∃ p ∈ op.pageSize, ∀ d ∈ sent, d.member? p.top = some (.ofNat n)
  first_token : ∀ d ∈ sent[0]?, d.member? op.inputToken.top = op.inputToken.read input
  later_token : ∀ k, ∀ d ∈ sent[k + 1]?, ∃ body, (o k).value = .ok body ∧
    d.member? op.inputToken.top = op.outputToken.read body

theorem framed_documents (apart : op.SizeApart) {ms : Members none} (h : op.Prepared input size ms)
    (o : Outcomes E Document) (n : Nat) :
    op.Framed o input size (op.documents o (.object ms) n) := by
  have derived : ∀ d ∈ op.documents o (.object ms) n,
      ∃ token, d = .object (ms.assign op.inputToken.top token) := by
    intro d hd
    obtain ⟨k, here⟩ := List.getElem?_of_mem hd
    exact ⟨_, (getElem?_documents here).2⟩
  have token_apart : ∀ p ∈ op.pageSize, size.isSome = true → op.inputToken.top ≠ p.top :=
    fun p member _ => (apart p member).2.symm
  refine ⟨?_, ?_, ?_, ?_, ?_⟩
  · intro d hd
    obtain ⟨token, rfl⟩ := derived d hd
    exact ⟨_, rfl⟩
  · intro d hd name not_token not_size
    obtain ⟨token, rfl⟩ := derived d hd
    rw [Document.member?_object, Members.get?_assign, if_neg not_token, h.others name not_size]
  · intro k given
    obtain ⟨p, member, sized⟩ := h.size k given
    refine ⟨p, member, fun d hd => ?_⟩
    obtain ⟨token, rfl⟩ := derived d hd
    rw [Document.member?_object, Members.get?_assign, if_neg (apart p member).2, sized]
  · intro d first
    obtain ⟨_, rfl⟩ := getElem?_documents first
    rw [Document.member?_object, Members.get?_assign, if_pos rfl, Outcomes.token,
      DocumentRequest.cursor_eq, Path.read_eq op.inputToken_top, Document.member?_object,
      h.others _ token_apart]
  · intro k d later
    obtain ⟨reached, rfl⟩ := getElem?_documents later
    obtain ⟨body, held, token⟩ := token_succ reached
    refine ⟨body, held, ?_⟩
    rw [Document.member?_object, Members.get?_assign, if_pos rfl, token]

theorem framed_sent (apart : op.SizeApart) (h : op.prepareInput input size = .ok prepared)
    (o : Outcomes E Document) (n : Nat) :
    op.Framed o input size (steps (PageIterator.pull (op.fetch (.ofOutcomes o))) n
      (op.paginateBlocking prepared, [])).2.2 ∧
    op.Framed o input size (steps (PageStream.pollNext (op.fetch (.ofOutcomes o))) n
      (op.paginate prepared, [])).2.2 := by
  obtain ⟨ms, rfl, ready⟩ := prepared_of_prepareInput apart h
  obtain ⟨m, _, polled⟩ := op.exists_sent_polls o (.object ms) n
  rw [op.sent_pulls o (.object ms) n, polled]
  exact ⟨framed_documents apart ready o n, framed_documents apart ready o m⟩

end PagedOperation

namespace Model

/-- Whatever resolves, a run over a prepared input sends the input of the caller with the page size
and with the token of the page before, and nothing else in it changes. The run may be pulled or
polled, as often as one likes, and its fetches may answer anything. -/
theorem resolve_framed {m : Model} {operation : String} {behavior : EndBehavior}
    {op : PagedOperation} (resolved : m.resolve operation behavior = .ok op) :
    op.endBehavior = behavior ∧ op.SizeApart ∧
    ∀ {E : Type} (input : Document) (size : Option Nat) (prepared : Document),
      op.prepareInput input size = .ok prepared → ∀ (o : Outcomes E Document) (n : Nat),
      op.Framed o input size (steps (PageIterator.pull (op.fetch (.ofOutcomes o))) n
        (op.paginateBlocking prepared, [])).2.2 ∧
      op.Framed o input size (steps (PageStream.pollNext (op.fetch (.ofOutcomes o))) n
        (op.paginate prepared, [])).2.2 := by
  obtain ⟨_, _, _, _, _, _, _, _, _, _, bound⟩ := binds_of_resolve resolved
  have apart : op.SizeApart := fun p member => bound.pageSize_apart member
  exact ⟨bound.end_behavior, apart, fun input size prepared ready =>
    PagedOperation.framed_sent apart ready⟩

theorem listing_framed :
    let input : Document := .ofPairs [("Prefix", .string "a"), ("Token", .null)]
    let o : Outcomes String Document := fun k =>
      ⟨k, .ok (.ofPairs [("Paging", .ofPairs [("More", .bool true), ("Next", .string "b")])])⟩
    listing.resolve "List" (.truncationMember "Paging.More") = .ok listNames ∧
      ∃ prepared, listNames.prepareInput input (some 2) = .ok prepared ∧
        let sent := (steps (PageIterator.pull (listNames.fetch (.ofOutcomes o))) 2
          (listNames.paginateBlocking prepared, [])).2.2
        sent.length = 2 ∧ listNames.Framed o input (some 2) sent := by
  intro input o
  obtain ⟨_, _, framed⟩ := resolve_framed resolve_listing
  exact ⟨resolve_listing, _, rfl, rfl, (framed input (some 2) _ rfl o 2).1⟩

end Pagewise.Model
