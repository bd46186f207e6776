import Pagewise.Operation.Paging
import Pagewise.Proofs.Http.Call
import Pagewise.Proofs.Paging.StreamInvariant

/-!
Runs of a paged operation at a host. Every page is one call, so the attempts of a run fall into
groups; what the run makes of the pages depends only on the last outcome of each group.
-/
namespace Pagewise

namespace PagedOperation

def direct (op : PagedOperation) (o : Nat → Except Error Document) :
    Fetch (List Document) DocumentRequest Error DocumentPage :=
  op.fetch (.ofOutcomes fun k => ⟨0, o k⟩)

def paged (op : PagedOperation) (r : Except Error Document) : Except Error DocumentPage :=
  r.map fun body => ⟨op, body⟩

theorem polls_paginate {σ E : Type} (op : PagedOperation) (input : Document)
    (fetch : Fetch σ DocumentRequest E DocumentPage) (prompt : ∀ req s, (fetch req s).1.polls = 0)
    (s : σ) (n : Nat) :
    steps (PageStream.pollNext fetch) n (op.paginate input, s) =
      ((steps (PageIterator.pull fetch) n (op.paginateBlocking input, s)).1.map .ready,
        .ofIterator (steps (PageIterator.pull fetch) n (op.paginateBlocking input, s)).2.1 none,
        (steps (PageIterator.pull fetch) n (op.paginateBlocking input, s)).2.2) :=
  PageStream.polls_of_prompt fetch prompt (op.paginateBlocking input) s n

end PagedOperation

namespace OperationClient

variable (c : OperationClient) (op : PagedOperation) (input : Document) (x : Exchange)

/-- Where a run stands after `n` pulls: the groups so far, and the same run when it is given their
last outcomes straight away. -/
structure Grouped (n : Nat) (results : List (Option (Except Error DocumentPage)))
    (it : PageIterator DocumentRequest Document) (y : Exchange) (gs : List Group) : Prop where
  splits : c.Splits x y gs
  kept : ∀ g ∈ gs, c.Within g ∧ g.request.headers.get? targetHeader = some (c.target op.name)
  yielded : results.filterMap id = gs.map fun g => op.paged g.last
  ended : ∀ (k : Nat) (h : k < gs.length) (e : Error), gs[k].last = .error e →
    k + 1 = gs.length ∧ it.isLive = false
  same_run : ∀ o : Nat → Except Error Document,
    (∀ (k : Nat) (h : k < gs.length), o k = gs[k].last) → ∃ asked : List Document,
      steps (PageIterator.pull (op.direct o)) n (op.paginateBlocking input, []) =
        (results, it, asked) ∧
      gs.map Group.request = asked.map (c.posted op.name)

variable {c op input x} {n : Nat} {results : List (Option (Except Error DocumentPage))}
  {it : PageIterator DocumentRequest Document} {y : Exchange} {gs : List Group}

theorem Grouped.idle (h : c.Grouped op input x n results it y gs) (dead : it.isLive = false) :
    c.Grouped op input x (n + 1) (results ++ [none]) it.settled y gs where
  splits := h.splits
  kept := h.kept
  yielded := by
    rw [← h.yielded]
    simp
  ended k hk e failed := by
    obtain ⟨_, _, live, _⟩ := PageIterator.eq_of_begun_eq it.begun_settled
    exact ⟨(h.ended k hk e failed).1, live.trans dead⟩
  same_run o agree := by
    obtain ⟨asked, run, requests⟩ := h.same_run o agree
    refine ⟨asked, ?_, requests⟩
    rw [steps_succ, run, PageIterator.pull_of_not_live _ _ dead]

theorem Grouped.call (h : c.Grouped op input x n results it y gs) (live : it.isLive = true)
    (legal : Headers.isValue (c.target op.name) = true) :
    c.Grouped op input x (n + 1)
      (results ++ [some (op.paged (c.call op.name it.request.body y).1)])
      (it.record (op.paged (c.call op.name it.request.body y).1))
      (c.call op.name it.request.body y).2 (gs ++ [c.group op.name it.request.body y]) := by
  rw [fst_call y legal]
  refine ⟨?_, ?_, ?_, ?_, ?_⟩
  · exact h.splits.append (splits_call y legal it.request.body)
  · intro g hg
    rcases List.mem_append.1 hg with hg | hg
    · exact h.kept g hg
    · rw [List.mem_singleton.1 hg]
      exact ⟨within_group y it.request.body, c.get?_headers (c.target op.name)⟩
  · rw [List.filterMap_append, h.yielded, List.map_append]
    rfl
  · intro k hk e failed
    rw [List.length_append, List.length_singleton] at hk ⊢
    rcases Nat.lt_succ_iff_lt_or_eq.1 hk with hk' | rfl
    · rw [List.getElem_append_left hk'] at failed
      have dead := (h.ended k hk' e failed).2
      exact absurd (live.symm.trans dead) (by decide)
    · rw [List.getElem_concat_length rfl] at failed
      refine ⟨rfl, ?_⟩
      rw [PageIterator.isLive_record live, failed]
      rfl
  -- The direct run has been asked once for each group, so its next answer is that of this group.
  · intro o agree
    have agree' : ∀ (k : Nat) (h : k < gs.length), o k = gs[k].last := by
      intro k hk
      rw [agree k (by rw [List.length_append]; omega), List.getElem_append_left hk]
    obtain ⟨asked, run, requests⟩ := h.same_run o agree'
    have count : asked.length = gs.length := by
      rw [← List.length_map (f := c.posted op.name), ← requests, List.length_map]
    have next : o asked.length = (c.group op.name it.request.body y).last := by
      rw [count, agree gs.length (by simp), List.getElem_concat_length rfl]
    refine ⟨asked ++ [it.request.body], ?_, ?_⟩
    · rw [steps_succ, run, PageIterator.pull_of_live _ _ live, ← next]
      rfl
    · rw [List.map_append, requests, List.map_append]
      rfl

variable (c op input x)

theorem grouped_pulls (legal : Headers.isValue (c.target op.name) = true) (n : Nat) :
    ∃ gs, c.Grouped op input x n
      (steps (PageIterator.pull (op.fetch (c.fetcher op.name).fetch)) n
        (op.paginateBlocking input, x)).1
      (steps (PageIterator.pull (op.fetch (c.fetcher op.name).fetch)) n
        (op.paginateBlocking input, x)).2.1
      (steps (PageIterator.pull (op.fetch (c.fetcher op.name).fetch)) n
        (op.paginateBlocking input, x)).2.2 gs := by
  refine PageIterator.pulls_induction (op.fetch (c.fetcher op.name).fetch)
    (P := fun n results it y => ∃ gs, c.Grouped op input x n results it y gs) ?_ ?_ ?_ n
  · refine ⟨[], splits_nil c x, by simp, rfl, by simp, ?_⟩
    exact fun o _ => ⟨[], rfl, rfl⟩
  · intro n results it y ⟨gs, h⟩ live
    exact ⟨_, h.call live legal⟩
  · intro n results it y ⟨gs, h⟩ dead
    exact ⟨gs, h.idle dead⟩

/-- A run of calls under a legal target comes to its end, and up to any point its attempts fall into
groups, one to a page: each has one request, the one that the page asks for, and no more attempts
than the policy allows, of which all but the last failed in a retryable way. The run is the one whose
fetches return the last outcomes straight away, and ends with the first of them that is an error. -/
theorem paginate_groups (legal : Headers.isValue (c.target op.name) = true) :
    (∃ n, (steps (PageStream.pollNext (op.pages (c.fetcher op.name)).fetch) n
      (op.paginate input, x)).2.1.isTerminated = true) ∧
    ∀ n, ∃ gs : List Group,
      let p := steps (PageStream.pollNext (op.pages (c.fetcher op.name)).fetch) n
        (op.paginate input, x)
      c.Splits x p.2.2 gs ∧
      (∀ g ∈ gs, c.Within g ∧ g.request.headers.get? targetHeader = some (c.target op.name)) ∧
      (answersIn p.1).filterMap id = gs.map (fun g => op.paged g.last) ∧
      (∀ (k : Nat) (h : k < gs.length) (e : Error), gs[k].last = .error e →
        k + 1 = gs.length ∧ p.2.1.isTerminated = true) ∧
      ∀ o : Nat → Except Error Document, (∀ (k : Nat) (h : k < gs.length), o k = gs[k].last) →
        let q := steps (PageStream.pollNext (op.direct o)) n (op.paginate input, [])
        p.1 = q.1 ∧ p.2.1 = q.2.1 ∧ gs.map Group.request = q.2.2.map (c.posted op.name) := by
  have polls := op.polls_paginate input (op.pages (c.fetcher op.name)).fetch (fun _ _ => rfl) x
  constructor
  · obtain ⟨n, ended⟩ := PageIterator.exists_ended (op.pages (c.fetcher op.name))
      (op.paginateBlocking input) x
    refine ⟨n, ?_⟩
    rw [polls, PageStream.isTerminated_iff]
    exact ⟨rfl, ended⟩
  · intro n
    obtain ⟨gs, h⟩ := grouped_pulls c op input x legal n
    refine ⟨gs, ?_⟩
    rw [polls]
    refine ⟨h.splits, h.kept, ?_, ?_, ?_⟩
    · rw [answersIn_map_ready]
      exact h.yielded
    · intro k hk e failed
      obtain ⟨last, dead⟩ := h.ended k hk e failed
      exact ⟨last, (PageStream.isTerminated_iff _).2 ⟨rfl, dead⟩⟩
    · intro o agree
      obtain ⟨asked, run, requests⟩ := h.same_run o agree
      rw [op.polls_paginate input (op.direct o) (fun _ _ => rfl), run]
      exact ⟨rfl, rfl, requests⟩

/-- A first attempt that comes to nothing, and a page without a token: both are attempts of the one
group of that page. -/
theorem listItems_groups :
    let op := PagedOperation.listItems
    let c : OperationClient :=
      ⟨⟨default, .empty⟩, ⟨"http", some ⟨"", "", .domain "localhost", none⟩, "/", none, none⟩,
        some "Items"⟩
    let x := Exchange.ofAnswers [.none .silence, .reply ⟨200, [], [], none⟩] (.connection "closed")
    let p := steps (PageStream.pollNext (op.pages (c.fetcher op.name)).fetch) 1
      (op.paginate .emptyObject, x)
    Headers.isValue (c.target op.name) = true ∧
      ∃ g : Group, c.Splits x p.2.2 [g] ∧ g.request = c.posted op.name .emptyObject ∧
        g.outcomes = [.error (.timeout 30000), .ok .emptyObject] ∧
        p.2.2.sent = [g.request, g.request] ∧
        (answersIn p.1).filterMap id = [.ok ⟨op, .emptyObject⟩] := by
  intro op c x p
  have legal : Headers.isValue (c.target op.name) = true := by decide
  obtain ⟨gs, splits, _, yielded, _, direct⟩ :=
    (paginate_groups c op .emptyObject x legal).2 1
  have one_page : ((answersIn p.1).filterMap id).length = 1 := by decide +kernel
  have two_sent : p.2.2.sent.length = 2 := by decide +kernel
  rw [yielded, List.length_map] at one_page
  obtain ⟨g, rfl⟩ := List.length_eq_one_iff.1 one_page
  have sent : p.2.2.sent = g.requests := by
    rw [splits.sent, List.flatMap_singleton]
    rfl
  have two : g.outcomes.length = 2 := by rw [← two_sent, sent, Group.requests, List.length_replicate]
  have script : (List.range 2).map (c.outcome x) = [.error (.timeout 30000), .ok .emptyObject] := by
    subst c x
    rfl
  have outcomes : g.outcomes = [.error (.timeout 30000), .ok .emptyObject] := by
    have taken := splits.outcomes
    rw [List.flatMap_singleton, two] at taken
    exact taken.trans script
  have last : g.last = .ok .emptyObject := by
    have ends : g.outcomes.getLast? = some g.last := List.getLast?_concat
    rw [outcomes] at ends
    exact (Option.some.inj ends).symm
  have asked : [g].map Group.request = [c.posted op.name .emptyObject] := by
    obtain ⟨_, _, requests⟩ := direct (fun _ => g.last) (fun k h => by simp_all)
    exact requests
  refine ⟨legal, g, splits, List.singleton_inj.1 asked, outcomes, ?_, ?_⟩
  · rw [sent, Group.requests, two]
    rfl
  · rw [yielded, List.map_singleton, last]
    rfl

end OperationClient

end Pagewise
