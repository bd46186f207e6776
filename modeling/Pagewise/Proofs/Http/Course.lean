import Pagewise.Proofs.Http.Call
import Pagewise.Proofs.Retry.Course

/-!
The attempts of a call. A call puts its one request to the host again and again as the retry policy
has it, over the outcomes that the exchange has in store.
-/
namespace Pagewise.OperationClient

variable (c : OperationClient) (operation : String) (input : Document) (x : Exchange)

theorem group_recorded :
    let t := c.http.settings.retry.run
      (RetryPolicy.recorded (c.outcome x) (c.posted operation input)) []
    c.group operation input x = ⟨c.posted operation input, t.2.1, t.1⟩ := by
  intro t
  let send := c.attempt (c.posted operation input)
  have outcome : ∀ i, (send (steps send i x).2).1 = c.outcome x i := by
    intro i
    rw [attempt_fst, (c.steps_attempt (c.posted operation input) x i).2.1, Nat.add_zero]
  rw [group, c.http.settings.retry.run_eq_recorded send x outcome (c.posted operation input)]

/-- Over any outcomes a request takes the course of the policy, asked the same way every time. A call
under a legal target is such a request, over the outcomes of its exchange. -/
theorem call_course (c : OperationClient) :
    (∀ (o : Nat → Except Error Document) (request : HttpRequest),
      let t := c.http.settings.retry.run (RetryPolicy.recorded o request) []
      c.http.settings.retry.Course o t.1 t.2.1 ∧
        t.2.2 = List.replicate (t.2.1.length + 1) request) ∧
    ∀ (operation : String) (input : Document) (x : Exchange),
      Headers.isValue (c.target operation) = true →
      let t := c.http.settings.retry.run
        (RetryPolicy.recorded (c.outcome x) (c.posted operation input)) []
      (c.call operation input x).1 = t.1 ∧
      (c.call operation input x).2.retried = x.retried ++ t.2.1 ∧
      (c.call operation input x).2.sent = x.sent ++ c.heard t.2.2 := by
  refine ⟨c.http.settings.retry.course_run, fun operation input x legal => ?_⟩
  intro t
  have group : c.group operation input x = ⟨c.posted operation input, t.2.1, t.1⟩ :=
    c.group_recorded operation input x
  have asked : t.2.2 = List.replicate (t.2.1.length + 1) (c.posted operation input) :=
    (c.http.settings.retry.course_run (c.outcome x) (c.posted operation input)).2
  have splits := splits_call x legal input
  rw [group] at splits
  refine ⟨?_, ?_, ?_⟩
  · rw [fst_call x legal, group]
  · rw [splits.retried, List.flatMap_singleton]
  · rw [splits.sent, List.flatMap_singleton, asked, Group.requests, Group.outcomes,
      RetryPolicy.length_outcomes]

theorem listItems_course :
    let c : OperationClient :=
      ⟨⟨default, .empty⟩, ⟨"http", some ⟨"", "", .domain "localhost", none⟩, "/", none, none⟩,
        some "Items"⟩
    let x := Exchange.ofAnswers [.reply ⟨429, [("Retry-After", "30")], [], none⟩, .none .silence,
      .reply ⟨200, [], [], none⟩] (.connection "closed")
    let r := c.call "ListItems" .emptyObject x
    Headers.isValue (c.target "ListItems") = true ∧ r.1 = .ok .emptyObject ∧
      r.2.retried.map Retry.delay = [.ofSeconds 20, .ofMilliseconds 200] ∧
      r.2.sent = List.replicate 3 (c.posted "ListItems" .emptyObject) := by
  intro c x r
  have legal : Headers.isValue (c.target "ListItems") = true := by decide
  have busy : c.outcome x 0 = .error (.rateLimited 30) := rfl
  have silent : c.outcome x 1 = .error (.timeout c.http.settings.timeoutMilliseconds) := rfl
  have answered : c.outcome x 2 = .ok .emptyObject := rfl
  have allowed : c.http.settings.retry.maxRetries = 3 := rfl
  have tried : ∀ request : HttpRequest,
      c.http.settings.retry.run (RetryPolicy.recorded (c.outcome x) request) [] =
        (.ok .emptyObject, [⟨.rateLimited 30, 1, some 4, .ofSeconds 20⟩,
          ⟨.timeout c.http.settings.timeoutMilliseconds, 2, some 4, .ofMilliseconds 200⟩],
          List.replicate 3 request) := by
    intro request
    simp [RetryPolicy.run, RetryPolicy.attempts, RetryPolicy.recorded, busy, silent, answered,
      Error.isRetryable, allowed]
    decide
  obtain ⟨last, retried, sent⟩ := c.call_course.2 "ListItems" .emptyObject x legal
  rw [tried] at last retried sent
  exact ⟨legal, last, congrArg (List.map Retry.delay) retried, sent⟩

end Pagewise.OperationClient
