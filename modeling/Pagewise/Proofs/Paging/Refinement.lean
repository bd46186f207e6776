import Pagewise.Operation.Paging
import Pagewise.Proofs.Paging.Progress

/-!
The page stream refines the page iterator, whatever fetches answer and however long they take: polls
without the pending ones are pulls, for any kind of request and page and so for documents.
-/
namespace Pagewise.PageStream

/-- Polled any number of times, a stream gives what an iterator gives that is pulled once for each
answer, and shows the same after each of them; a pending poll changes nothing that it shows. Polled
often enough it gives as many answers as one likes. -/
structure Refines {σ Req E Page C : Type} [Cursor C] [CursorRequest Req C] [CursorResponse Page C]
    (fetch : Fetch σ Req E Page) (st : PageStream Req C E Page) (it : PageIterator Req C) (s : σ) :
    Prop where
  agree : ∀ n : Nat,
    let p := steps (pollNext fetch) n (st, s)
    let r := steps (PageIterator.pull fetch) (answersIn p.1).length (it, s)
    let next := pollNext fetch p.2
    r.1 = answersIn p.1 ∧
    (p.1.getLast? ≠ some .pending →
      p.2.2 = r.2.2 ∧ p.2.1.pagesFetched = r.2.1.pagesFetched ∧
        p.2.1.cursor = r.2.1.cursor ∧ p.2.1.failed = r.2.1.failed) ∧
    (next.1 = .pending →
      next.2.1.pagesFetched = p.2.1.pagesFetched ∧ next.2.1.cursor = p.2.1.cursor ∧
        next.2.1.failed = p.2.1.failed)
  answered : ∀ m : Nat, ∃ n, (answersIn (steps (pollNext fetch) n (st, s)).1).length = m

theorem refines_start {σ Req E Page C : Type} [Cursor C] [CursorRequest Req C]
    [CursorResponse Page C] (fetch : Fetch σ Req E Page) (initial : Req) (behavior : EndBehavior)
    (s : σ) : Refines fetch (start initial behavior) (.start initial behavior) s := by
  have first := alongside_start fetch initial behavior s
  constructor
  · intro n p r next
    obtain ⟨same, along⟩ := first.polls n
    refine ⟨same, ?_, ?_⟩
    · intro answered
      exact ⟨along.eq_of_idle (first.idle_of_getLast? rfl n answered), along.same_view⟩
    · intro pending
      rcases along.poll_cases with ⟨_, later⟩ | ⟨ready, _⟩
      · obtain ⟨pages, cursor, failed⟩ := along.same_view
        obtain ⟨pages', cursor', failed'⟩ := later.same_view
        exact ⟨pages'.trans pages.symm, cursor'.trans cursor.symm, failed'.trans failed.symm⟩
      · exact absurd (pending.symm.trans ready) (by simp)
  · intro m
    obtain ⟨n, count, _⟩ := exists_polls_start fetch initial behavior s m
    exact ⟨n, count⟩

/-- Fetches may answer and delay as they like, by their state and what they are asked; the requests
they are asked are the same, in the same order. -/
theorem polls_refine_pulls :
    (∀ {σ Req E Page C : Type} [Cursor C] [CursorRequest Req C] [CursorResponse Page C]
      (fetch : Fetch σ Req E Page) (initial : Req) (behavior : EndBehavior) (s : σ),
      Refines fetch.recorded (start initial behavior) (.start initial behavior) (s, [])) ∧
    ∀ {σ E : Type} (op : PagedOperation) (fetch : Fetch σ Document E Document) (input : Document)
      (s : σ),
      Refines (op.fetch fetch.recorded) (op.paginate input) (op.paginateBlocking input) (s, []) :=
  ⟨fun fetch initial behavior s => refines_start fetch.recorded initial behavior (s, []),
    fun op fetch input s =>
      refines_start (op.fetch fetch.recorded) ⟨op, input⟩ op.endBehavior (s, [])⟩

end Pagewise.PageStream
