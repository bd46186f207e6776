import Pagewise.Proofs.Operation.Documents
import Pagewise.Proofs.Paging.Progress
import Pagewise.Proofs.Paging.Resumption
import Pagewise.Proofs.Paging.StreamInvariant

/-!
Runs of a paged operation that are taken up again after a failed fetch, from the token that the run
was left with. Together the two do what one run does that never failed.
-/
namespace Pagewise.PagedOperation

variable {E : Type}

def inputFrom (op : PagedOperation) (token : Option Document) (input : Document) : Document :=
  (CursorRequest.withCursor (DocumentRequest.mk op input) token).body

/-- What `n` demands are answered with, and the documents that they send. -/
def trace (op : PagedOperation) (o : Outcomes E Document) (input : Document) (n : Nat) :
    Trace Document E DocumentPage :=
  ((op.pageOutcomes o).answers (DocumentRequest.mk op input) op.endBehavior n,
    op.documents o input n)

variable {op : PagedOperation} {input : Document} {ms : Members none} {o a : Outcomes E Document}
  {k : Nat} {e : E}

/-! ### Traces of runs -/

theorem trace_pulls (n : Nat) :
    let r := steps (PageIterator.pull (op.fetch (.ofOutcomes o))) n (op.paginateBlocking input, [])
    (r.1, r.2.2) = op.trace o input n := by
  intro r
  have answers :
      r.1 = (op.pageOutcomes o).answers (DocumentRequest.mk op input) op.endBehavior n := by
    rw [← (PageIterator.follows_pulls (op.pageOutcomes o) (DocumentRequest.mk op input)
      op.endBehavior n).answered]
    exact congrArg Prod.fst (op.pulls_documents o input n)
  rw [answers, op.sent_pulls o input n, trace]

theorem trace_polls (n : Nat)
    (idle : (steps (PageStream.pollNext (op.fetch (.ofOutcomes o))) n
      (op.paginate input, [])).2.1.inFlight = none) :
    let p := steps (PageStream.pollNext (op.fetch (.ofOutcomes o))) n (op.paginate input, [])
    (answersIn p.1, p.2.2) = op.trace o input (answersIn p.1).length := by
  intro p
  obtain ⟨answers, sent, _⟩ := PageStream.polls_of_idle (op.fetch (.ofOutcomes o))
    (DocumentRequest.mk op input) op.endBehavior [] n idle
  rw [← trace_pulls]
  exact Prod.ext answers sent

theorem pulls_of_error
    (reached : (op.pageOutcomes o).reaches (DocumentRequest.mk op input) op.endBehavior k = true)
    (failed : (o k).value = .error e) (m : Nat) :
    let r := steps (PageIterator.pull (op.fetch (.ofOutcomes o))) (k + 1 + m)
      (op.paginateBlocking input, [])
    r.2.1.failed = true ∧
      r.2.1.cursor = (op.pageOutcomes o).token (DocumentRequest.mk op input) k := by
  intro r
  have failed' : (op.pageOutcomes o k).value = .error e := by rw [pageOutcomes, failed]; rfl
  have tally := PageIterator.tally_pulls (.ofOutcomes (op.pageOutcomes o))
    (DocumentRequest.mk op input) op.endBehavior [] (k + 1 + m)
  have follows := PageIterator.follows_pulls (op.pageOutcomes o) (DocumentRequest.mk op input)
    op.endBehavior (k + 1 + m)
  have same : r.2.1 = _ := congrArg (fun x => x.2.1) (op.pulls_documents o input (k + 1 + m))
  rw [same]
  refine ⟨tally.failed_iff.2 ⟨e, ?_⟩, ?_⟩
  · rw [follows.answered, (Outcomes.answers_of_error reached failed' m).1]
    simp
  · exact PageIterator.cursor_of_error follows (by omega) reached failed'

theorem lt_of_failed
    (reached : (op.pageOutcomes o).reaches (DocumentRequest.mk op input) op.endBehavior k = true)
    {n : Nat} (failed : (steps (PageIterator.pull (op.fetch (.ofOutcomes o))) n
      (op.paginateBlocking input, [])).2.1.failed = true) : k < n := by
  have tally := PageIterator.tally_pulls (.ofOutcomes (op.pageOutcomes o))
    (DocumentRequest.mk op input) op.endBehavior [] n
  have follows := PageIterator.follows_pulls (op.pageOutcomes o) (DocumentRequest.mk op input)
    op.endBehavior n
  rw [op.pulls_documents o input n] at failed
  obtain ⟨e, yielded⟩ := tally.failed_iff.1 failed
  rw [follows.answered, Outcomes.answers, List.mem_map] at yielded
  obtain ⟨j, hj, yielded⟩ := yielded
  by_cases early : j < k
  · obtain ⟨page, held⟩ := Outcomes.ok_of_reaches reached early
    rw [Outcomes.reaches_of_le (Nat.le_of_lt early) reached, if_pos rfl, held] at yielded
    cases yielded
  · have := List.mem_range.1 hj
    omega

theorem failed_polls_iff
    (reached : (op.pageOutcomes o).reaches (DocumentRequest.mk op input) op.endBehavior k = true)
    (failed : (o k).value = .error e) (n : Nat) :
    let p := steps (PageStream.pollNext (op.fetch (.ofOutcomes o))) n (op.paginate input, [])
    p.2.1.failed = true ↔ k < (answersIn p.1).length := by
  intro p
  have along := ((op.alongside_paginate o input).polls n).2
  obtain ⟨_, _, same⟩ := along.same_view
  refine ⟨fun ended => lt_of_failed reached (same.symm.trans ended), ?_⟩
  intro beyond
  obtain ⟨m, count⟩ : ∃ m, (answersIn p.1).length = k + 1 + m := Nat.exists_eq_add_of_le beyond
  rw [count] at same
  exact same.trans (pulls_of_error reached failed m).1

theorem polls_of_error
    (reached : (op.pageOutcomes o).reaches (DocumentRequest.mk op input) op.endBehavior k = true)
    (failed : (o k).value = .error e) (n : Nat)
    (ended : (steps (PageStream.pollNext (op.fetch (.ofOutcomes o))) n
      (op.paginate input, [])).2.1.failed = true) :
    let p := steps (PageStream.pollNext (op.fetch (.ofOutcomes o))) n (op.paginate input, [])
    p.2.1.inFlight = none ∧ (∃ m, (answersIn p.1).length = k + 1 + m) ∧
      p.2.1.cursor = (op.pageOutcomes o).token (DocumentRequest.mk op input) k := by
  intro p
  have along := ((op.alongside_paginate o input).polls n).2
  have idle : p.2.1.inFlight = none := along.idle_of_failed ended
  obtain ⟨_, cursor, _⟩ := along.same_view
  have beyond : k < (answersIn p.1).length := (failed_polls_iff reached failed n).1 ended
  obtain ⟨m, count⟩ : ∃ m, (answersIn p.1).length = k + 1 + m := Nat.exists_eq_add_of_le beyond
  refine ⟨idle, ⟨m, count⟩, cursor.trans ?_⟩
  rw [count]
  exact (pulls_of_error reached failed m).2

/-! ### Taken up again -/

theorem restarts_inputFrom :
    let token := (op.pageOutcomes o).token (DocumentRequest.mk op (.object ms)) k
    Outcomes.Restarts (DocumentRequest.mk op (.object ms))
      (DocumentRequest.mk op (op.inputFrom token (.object ms))) token where
  cursor := DocumentRequest.cursor_withCursor op ms fun _ => isNull_token
  request := DocumentRequest.withCursor_withCursor op ms _

theorem pageOutcomes_congr (same : ∀ i < k, (a i).value = (o i).value) :
    ∀ i < k, (op.pageOutcomes a i).value = (op.pageOutcomes o i).value := by
  intro i hi
  rw [pageOutcomes, pageOutcomes, same i hi]

theorem rejoins_trace
    (reached : (op.pageOutcomes o).reaches (DocumentRequest.mk op (.object ms)) op.endBehavior k =
      true)
    (same : ∀ i < k, (a i).value = (o i).value) (failed : (a k).value = .error e) (m n : Nat) :
    Rejoins (op.trace a (.object ms) (k + 1 + m))
      (op.trace (o.after k) (op.inputFrom ((op.pageOutcomes o).token
        (DocumentRequest.mk op (.object ms)) k) (.object ms)) n)
      (op.trace o (.object ms) (k + n)) := by
  have failed' : (op.pageOutcomes a k).value = .error e := by rw [pageOutcomes, failed]; rfl
  have rejoined := Outcomes.rejoins reached (pageOutcomes_congr same) failed' restarts_inputFrom m n
  exact rejoined.map DocumentRequest.body

theorem reaches_broken
    (reached : (op.pageOutcomes o).reaches (DocumentRequest.mk op input) op.endBehavior k = true)
    (same : ∀ i < k, (a i).value = (o i).value) :
    (op.pageOutcomes a).reaches (DocumentRequest.mk op input) op.endBehavior k = true ∧
      (op.pageOutcomes a).token (DocumentRequest.mk op input) k =
        (op.pageOutcomes o).token (DocumentRequest.mk op input) k := by
  exact ⟨(Outcomes.reaches_congr (pageOutcomes_congr same) (Nat.le_refl k)).trans reached,
    Outcomes.token_congr (pageOutcomes_congr same) (Nat.le_refl k)⟩

/-- A run that breaks off at fetch `k`, and one from the token that it is left with over the outcomes
from `k` on: the pages of the first and all that the second yields are what one run yields that gets
every outcome, and but for the request that failed so are the documents sent. This holds of the
iterator after any number of pulls, and of the stream after any number of polls that leave nothing in
flight; polled often enough the stream has given any number of answers and left nothing in flight. -/
theorem rejoins_after_error
    (reached : (op.pageOutcomes o).reaches (DocumentRequest.mk op (.object ms)) op.endBehavior k =
      true)
    (same : ∀ i < k, (a i).value = (o i).value) (failed : (a k).value = .error e) :
    (∀ m n,
      let A := steps (PageIterator.pull (op.fetch (.ofOutcomes a))) (k + 1 + m)
        (op.paginateBlocking (.object ms), [])
      let B := steps (PageIterator.pull (op.fetch (.ofOutcomes (o.after k)))) n
        (op.paginateBlocking (op.inputFrom A.2.1.cursor (.object ms)), [])
      let U := steps (PageIterator.pull (op.fetch (.ofOutcomes o))) (k + n)
        (op.paginateBlocking (.object ms), [])
      A.2.1.failed = true ∧ Rejoins (A.1, A.2.2) (B.1, B.2.2) (U.1, U.2.2)) ∧
    (∀ i j l,
      let A := steps (PageStream.pollNext (op.fetch (.ofOutcomes a))) i
        (op.paginate (.object ms), [])
      let B := steps (PageStream.pollNext (op.fetch (.ofOutcomes (o.after k)))) j
        (op.paginate (op.inputFrom A.2.1.cursor (.object ms)), [])
      let U := steps (PageStream.pollNext (op.fetch (.ofOutcomes o))) l
        (op.paginate (.object ms), [])
      (A.2.1.failed = true ↔ k < (answersIn A.1).length) ∧
      (A.2.1.failed = true → B.2.1.inFlight = none → U.2.1.inFlight = none →
        (answersIn U.1).length = k + (answersIn B.1).length →
        Rejoins (answersIn A.1, A.2.2) (answersIn B.1, B.2.2) (answersIn U.1, U.2.2))) ∧
    ∀ (outcomes : Outcomes E Document) (body : Document) (n : Nat), ∃ i,
      let p := steps (PageStream.pollNext (op.fetch (.ofOutcomes outcomes))) i
        (op.paginate body, [])
      (answersIn p.1).length = n ∧ p.2.1.inFlight = none := by
  obtain ⟨broken, token⟩ := reaches_broken reached same
  refine ⟨?_, ?_, ?_⟩
  · intro m n A B U
    obtain ⟨failed', cursor⟩ := pulls_of_error broken failed m
    refine ⟨failed', ?_⟩
    have resumed : A.2.1.cursor = _ := cursor.trans token
    simp only [A, B, U, trace_pulls]
    rw [resumed]
    exact rejoins_trace reached same failed m n
  · intro i j l A B U
    refine ⟨failed_polls_iff broken failed i, ?_⟩
    intro failed' idleB idleU count
    obtain ⟨idleA, ⟨m, answered⟩, cursor⟩ := polls_of_error broken failed i failed'
    have traceA : (answersIn A.1, A.2.2) = op.trace a (.object ms) (k + 1 + m) :=
      answered ▸ trace_polls i idleA
    have traceB : (answersIn B.1, B.2.2) = _ := trace_polls j idleB
    have traceU : (answersIn U.1, U.2.2) = _ := trace_polls l idleU
    have resumed : A.2.1.cursor = _ := cursor.trans token
    have rejoined := rejoins_trace reached same failed m (answersIn B.1).length
    rw [← resumed] at rejoined
    rw [traceA, traceB, traceU, count]
    exact rejoined
  · intro outcomes body n
    exact PageStream.exists_polls_start (op.fetch (.ofOutcomes outcomes))
      (DocumentRequest.mk op body) op.endBehavior [] n

theorem listItems_rejoins :
    let op := listItems
    let ms : Members none := .cons "NextToken" nofun .null .nil
    let o : Outcomes String Document := fun k =>
      if k = 0 then ⟨1, .ok (.ofPairs [("NextToken", .string "2")])⟩ else ⟨2, .ok .emptyObject⟩
    let a : Outcomes String Document := fun k => if k = 0 then o 0 else ⟨0, .error "closed"⟩
    let pulls (o : Outcomes String Document) (body : Document) (n : Nat) :=
      steps (PageIterator.pull (op.fetch (.ofOutcomes o))) n (op.paginateBlocking body, [])
    let polls (o : Outcomes String Document) (body : Document) (n : Nat) :=
      steps (PageStream.pollNext (op.fetch (.ofOutcomes o))) n (op.paginate body, [])
    let again := op.inputFrom (some (.string "2")) (.object ms)
    ((pulls a (.object ms) 2).2.1.cursor = some (.string "2") ∧
      Rejoins ((pulls a (.object ms) 2).1, (pulls a (.object ms) 2).2.2)
        ((pulls (o.after 1) again 2).1, (pulls (o.after 1) again 2).2.2)
        ((pulls o (.object ms) 3).1, (pulls o (.object ms) 3).2.2)) ∧
    (polls a (.object ms) 3).2.1.cursor = some (.string "2") ∧
      Rejoins (answersIn (polls a (.object ms) 3).1, (polls a (.object ms) 3).2.2)
        (answersIn (polls (o.after 1) again 4).1, (polls (o.after 1) again 4).2.2)
        (answersIn (polls o (.object ms) 6).1, (polls o (.object ms) 6).2.2) := by
  intro op ms o a pulls polls again
  have same : ∀ i < 1, (a i).value = (o i).value := by
    intro i hi
    obtain rfl : i = 0 := by omega
    rfl
  have reached : (op.pageOutcomes o).reaches (DocumentRequest.mk op (.object ms)) op.endBehavior 1 =
    true := rfl
  have failed : (a 1).value = .error "closed" := rfl
  obtain ⟨pulled, polled, _⟩ := rejoins_after_error reached same failed
  exact ⟨⟨rfl, (pulled 0 2).2⟩, rfl, (polled 3 4 6).2 rfl rfl rfl rfl⟩

end Pagewise.PagedOperation
