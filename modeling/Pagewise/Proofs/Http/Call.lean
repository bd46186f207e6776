import Pagewise.Http.Client
import Pagewise.Proofs.Retry.Attempts

/-!
What one call of an operation puts to the host and takes from it: one request, the same for all its
attempts, and the next outcomes of the script, as many as there are attempts.
-/
namespace Pagewise

structure Group where
  request : HttpRequest
  retries : List Retry
  last : Except Error Document

namespace Group

def outcomes (g : Group) : List (Except Error Document) := RetryPolicy.outcomes g.retries g.last

def requests (g : Group) : List HttpRequest := List.replicate g.outcomes.length g.request

end Group

namespace OperationClient

/-- What becomes of an attempt after `i` others. -/
def outcome (c : OperationClient) (x : Exchange) (i : Nat) : Except Error Document :=
  if c.endpoint.isWeb then
    (x.answers[i]?.map fun a => a.outcome c.http.settings.timeoutMilliseconds).getD
      (.error x.beyond)
  else .error (.connection "no web endpoint")

def heard (c : OperationClient) (requests : List HttpRequest) : List HttpRequest :=
  if c.endpoint.isWeb then requests else []

def posted (c : OperationClient) (operation : String) (input : Document) : HttpRequest :=
  ⟨c.endpoint.target, c.headers (c.target operation), input.compact⟩

def group (c : OperationClient) (operation : String) (input : Document) (x : Exchange) : Group :=
  let request := c.posted operation input
  let r := c.http.settings.retry.run (c.attempt request) x
  ⟨request, r.2.1, r.1⟩

theorem get?_headers (c : OperationClient) (target : String) :
    (c.headers target).get? targetHeader = some target := by
  have own : (Headers.ofList
      ([("content-type", contentType), (targetHeader, target)] ++ c.authorization)).get?
        targetHeader = some target := by
    have content : targetHeader ≠ Headers.lowerName "content-type" := by decide
    have credentials : targetHeader ≠ Headers.lowerName "authorization" := by decide
    have name : Headers.lowerName targetHeader = targetHeader := by decide
    unfold authorization
    cases c.endpoint.authority.bind Authority.authorization? with
    | none => simp [Headers.ofList, Headers.set, Table.get?_insert, name]
    | some v => simp [Headers.ofList, Headers.set, Table.get?_insert, name, credentials]
  rw [headers, Headers.get?_orElse, Headers.get?_orElse, own, Option.some_or, Option.some_or]

/-! ### Attempts -/

variable (c : OperationClient) (r : HttpRequest) (x : Exchange)

theorem attempt_fst : (c.attempt r x).1 = c.outcome x 0 := by
  obtain ⟨answers, beyond, requests, retries⟩ := x
  unfold attempt outcome
  split
  · cases answers <;> rfl
  · rfl

theorem outcome_attempt (i : Nat) : c.outcome (c.attempt r x).2 i = c.outcome x (i + 1) := by
  obtain ⟨answers, beyond, requests, retries⟩ := x
  unfold attempt outcome
  split
  · cases answers <;> simp [Exchange.ask]
  · rfl

theorem sent_attempt : (c.attempt r x).2.sent = x.sent ++ c.heard [r] := by
  obtain ⟨answers, beyond, requests, retries⟩ := x
  unfold attempt heard
  split
  · cases answers <;> simp [Exchange.ask, Exchange.sent]
  · simp

theorem retries_attempt : (c.attempt r x).2.retries = x.retries := by
  obtain ⟨answers, beyond, requests, retries⟩ := x
  unfold attempt
  split
  · cases answers <;> rfl
  · rfl

theorem heard_append (requests more : List HttpRequest) :
    c.heard (requests ++ more) = c.heard requests ++ c.heard more := by
  unfold heard
  split <;> simp

theorem steps_attempt (k : Nat) :
    (steps (c.attempt r) k x).1 = (List.range k).map (c.outcome x) ∧
      (∀ i, c.outcome (steps (c.attempt r) k x).2 i = c.outcome x (k + i)) ∧
      (steps (c.attempt r) k x).2.sent = x.sent ++ c.heard (List.replicate k r) ∧
      (steps (c.attempt r) k x).2.retries = x.retries := by
  induction k with
  | zero =>
    refine ⟨rfl, fun i => by rw [Nat.zero_add]; rfl, ?_, rfl⟩
    simp [steps, heard]
  | succ k ih =>
    obtain ⟨outcomes, rest, sent, retries⟩ := ih
    rw [steps_succ]
    refine ⟨?_, fun i => ?_, ?_, ?_⟩
    · rw [outcomes, attempt_fst, rest, List.range_succ, List.map_append]
      rfl
    · rw [outcome_attempt, rest, Nat.add_right_comm, Nat.add_assoc]
    · rw [sent_attempt, sent, List.replicate_succ', heard_append, List.append_assoc]
    · rw [retries_attempt, retries]

/-! ### Calls -/

/-- The groups are the attempts that lead from one exchange to another: they take the next outcomes
of the script in order, and the log holds their requests and retries. -/
structure Splits (c : OperationClient) (x y : Exchange) (gs : List Group) : Prop where
  outcomes : gs.flatMap Group.outcomes =
    (List.range (gs.flatMap Group.outcomes).length).map (c.outcome x)
  rest : ∀ i, c.outcome y i = c.outcome x ((gs.flatMap Group.outcomes).length + i)
  sent : y.sent = x.sent ++ c.heard (gs.flatMap Group.requests)
  retried : y.retried = x.retried ++ gs.flatMap Group.retries

theorem splits_nil : c.Splits x x [] where
  outcomes := rfl
  rest i := by simp
  sent := by simp [heard]
  retried := by simp

theorem Splits.append {c : OperationClient} {x y z : Exchange} {gs hs : List Group}
    (first : c.Splits x y gs) (later : c.Splits y z hs) : c.Splits x z (gs ++ hs) where
  outcomes := by
    have shift : c.outcome y = fun i => c.outcome x ((gs.flatMap Group.outcomes).length + i) :=
      funext first.rest
    rw [List.flatMap_append, List.length_append, List.range_add, List.map_append, List.map_map,
      ← first.outcomes]
    conv => lhs; rw [later.outcomes, shift]
    rfl
  rest i := by
    rw [later.rest, first.rest, List.flatMap_append, List.length_append, Nat.add_assoc]
  sent := by
    rw [later.sent, first.sent, List.flatMap_append, heard_append, List.append_assoc]
  retried := by rw [later.retried, first.retried, List.flatMap_append, List.append_assoc]

variable {c} {operation : String}

theorem call_of_legal (legal : Headers.isValue (c.target operation) = true) (input : Document) :
    ∃ y : Exchange,
      steps (c.attempt (c.posted operation input)) (c.group operation input x).outcomes.length x =
        ((c.group operation input x).outcomes, y) ∧
      c.call operation input x = ((c.group operation input x).last,
        { y with retries := (c.group operation input x).retries.reverse ++ y.retries }) := by
  refine ⟨(c.http.settings.retry.run (c.attempt (c.posted operation input)) x).2.2, ?_, ?_⟩
  · rw [Group.outcomes, RetryPolicy.length_outcomes]
    exact RetryPolicy.steps_attempts _ _ 0 x
  · rw [call, callWarned, if_pos legal]
    rfl

theorem fst_call (legal : Headers.isValue (c.target operation) = true) (input : Document) :
    (c.call operation input x).1 = (c.group operation input x).last := by
  obtain ⟨_, _, called⟩ := call_of_legal x legal input
  rw [called]

theorem splits_call (legal : Headers.isValue (c.target operation) = true) (input : Document) :
    c.Splits x (c.call operation input x).2 [c.group operation input x] := by
  obtain ⟨y, made, called⟩ := call_of_legal x legal input
  obtain ⟨outcomes, rest, sent, retries⟩ :=
    c.steps_attempt (c.posted operation input) x (c.group operation input x).outcomes.length
  rw [made] at outcomes rest sent retries
  rw [called]
  refine ⟨?_, ?_, ?_, ?_⟩
  · rw [List.flatMap_singleton]
    exact outcomes
  · rw [List.flatMap_singleton]
    exact rest
  · rw [List.flatMap_singleton]
    exact sent
  · rw [List.flatMap_singleton, Exchange.retried, List.reverse_append, List.reverse_reverse,
      retries]
    rfl

/-- What the retry policy makes of a group. -/
structure Within (c : OperationClient) (g : Group) : Prop where
  nonempty : 1 ≤ g.outcomes.length
  bounded : g.outcomes.length ≤ c.http.settings.retry.maxRetries.toNat + 1
  retried : ∀ o ∈ g.outcomes.dropLast, ∃ e, o = .error e ∧ e.isRetryable = true
  exhausted : ∀ e, g.last = .error e → e.isRetryable = true →
    g.outcomes.length = c.http.settings.retry.maxRetries.toNat + 1

theorem within_group (input : Document) : c.Within (c.group operation input x) := by
  have keeps : c.http.settings.retry.Keeps 0 (c.group operation input x).retries
      (c.group operation input x).last :=
    RetryPolicy.attempts_keep _ _ 0 x
  have count : (c.group operation input x).outcomes.length =
      (c.group operation input x).retries.length + 1 := RetryPolicy.length_outcomes _ _
  have none_before : (0 : UInt32).toNat = 0 := rfl
  refine ⟨?_, ?_, ?_, ?_⟩
  · omega
  · have := keeps.bounded
    omega
  · intro o ho
    rw [Group.outcomes, RetryPolicy.outcomes, List.dropLast_concat, List.mem_map] at ho
    obtain ⟨r, hr, rfl⟩ := ho
    exact ⟨r.error, rfl, keeps.retryable r hr⟩
  · intro e failed retryable
    have := keeps.exhausted e failed retryable
    omega

end OperationClient

end Pagewise
