import Pagewise.Http.Credentials
import Pagewise.Http.Reply
import Pagewise.Http.Settings
import Pagewise.Paging.Fetcher
import Pagewise.Retry.Loop

/-!
Calling operations. Every call of an operation is a POST of the input document, sent again while the
retry policy says so. The host at the other end is an exchange: the answers it will give, one to an
attempt, and what it has been asked.
-/
namespace Pagewise

structure HttpClient where
  settings : ClientSettings
  headers : Headers

namespace HttpClient

def new (settings : ClientSettings) : Except Error HttpClient := do
  return ⟨settings, ← Headers.configured settings.headers⟩

def hasRateLimiter (c : HttpClient) : Bool := c.settings.rateLimit.isSome

def write (c : HttpClient) : String :=
  "HttpClient \x7b config: " ++ c.settings.write ++ ", has_rate_limiter: " ++
    (if c.hasRateLimiter then "true" else "false") ++ ", .. \x7d"

end HttpClient

structure HttpRequest where
  target : String
  headers : Headers
  body : String

/-- One end of a conversation: what becomes of the attempts to come, and what has been said, the latest
first. -/
structure Exchange where
  answers : List Answer
  /-- How attempts beyond the last answer fail. -/
  beyond : Error
  requests : List HttpRequest
  retries : List Retry

namespace Exchange

def ofAnswers (answers : List Answer) (beyond : Error) : Exchange := ⟨answers, beyond, [], []⟩

def ask (limit : Nat) (r : HttpRequest) (x : Exchange) : Except Error Document × Exchange :=
  match x.answers with
  | [] => (.error x.beyond, { x with requests := r :: x.requests })
  | a :: rest => (a.outcome limit, { x with answers := rest, requests := r :: x.requests })

def sent (x : Exchange) : List HttpRequest := x.requests.reverse

def retried (x : Exchange) : List Retry := x.retries.reverse

end Exchange

structure OperationClient where
  http : HttpClient
  endpoint : Url
  targetLead : Option String

namespace OperationClient

def contentType : String := "application/x-amz-json-1.1"

def targetHeader : String := "x-amz-target"

def new (http : HttpClient) (endpoint : String) (targetLead : Option String) :
    Except Error OperationClient :=
  match Url.parse endpoint with
  | .ok url => .ok ⟨http, url, targetLead⟩
  | .error e => .error (.invalidUrl e)

def target (c : OperationClient) (operation : String) : String :=
  match c.targetLead with
  | some lead => lead ++ "." ++ operation
  | none => operation

def authorization (c : OperationClient) : List (String × String) :=
  ((c.endpoint.authority.bind Authority.authorization?).map fun v => ("authorization", v)).toList

/-- The fields of a request: its own, then the configured ones, then the program's name. -/
def headers (c : OperationClient) (target : String) : Headers :=
  let own := Headers.ofList
    ([("content-type", contentType), (targetHeader, target)] ++ c.authorization)
  let agent := Headers.ofList [("user-agent", c.http.settings.agent)]
  Headers.orElse (Headers.orElse own c.http.headers) agent

/-- One attempt. An endpoint that is not on the web is never reached. -/
def attempt (c : OperationClient) (r : HttpRequest) (x : Exchange) :
    Except Error Document × Exchange :=
  if c.endpoint.isWeb then x.ask c.http.settings.timeoutMilliseconds r
  else (.error (.connection "no web endpoint"), x)

/-- Call an operation with an input document; `aloud` if the warnings of its retries are heard. -/
def callWarned (c : OperationClient) (aloud : Bool) (operation : String) (input : Document)
    (x : Exchange) : Except Error Document × Exchange :=
  let target := c.target operation
  if Headers.isValue target then
    let request : HttpRequest := ⟨c.endpoint.target, c.headers target, input.compact⟩
    let r := c.http.settings.retry.attempts aloud (c.attempt request) 0 x
    (r.1, { r.2.2 with retries := r.2.1.reverse ++ r.2.2.retries })
  else (.error (.invalidValue "target_prefix" Headers.badValue), x)

def call (c : OperationClient) (operation : String) (input : Document) (x : Exchange) :
    Except Error Document × Exchange := c.callWarned false operation input x

/-! ### Calls as fetches -/

theorem answers_ask (limit : Nat) (r : HttpRequest) (x : Exchange) :
    (x.ask limit r).2.answers = x.answers.tail := by
  unfold Exchange.ask
  cases x.answers <;> rfl

theorem answers_ne_nil_of_ask (limit : Nat) (r : HttpRequest) (x : Exchange) (d : Document)
    (h : (x.ask limit r).1 = .ok d) : x.answers ≠ [] := by
  intro hx
  simp [Exchange.ask, hx] at h

theorem length_attempt_le (c : OperationClient) (r : HttpRequest) (x : Exchange) :
    (c.attempt r x).2.answers.length ≤ x.answers.length := by
  unfold attempt
  split
  · simp [answers_ask]
  · simp

theorem length_attempt_lt (c : OperationClient) (r : HttpRequest) (x : Exchange) (d : Document)
    (h : (c.attempt r x).1 = .ok d) : (c.attempt r x).2.answers.length < x.answers.length := by
  unfold attempt at h ⊢
  split at h
  · next hw =>
    have := List.length_pos_iff.2 (answers_ne_nil_of_ask _ _ _ _ h)
    rw [if_pos hw, answers_ask, List.length_tail]
    omega
  · simp at h

theorem length_callWarned_lt (c : OperationClient) (aloud : Bool) (operation : String)
    (input : Document) (x : Exchange) (d : Document)
    (h : (c.callWarned aloud operation input x).1 = .ok d) :
    (c.callWarned aloud operation input x).2.answers.length < x.answers.length := by
  unfold callWarned at h ⊢
  simp only at h ⊢
  split at h
  · next hv =>
    rw [if_pos hv]
    exact RetryPolicy.measure_attempts_lt (fun x => x.answers.length) (length_attempt_le c _)
      (length_attempt_lt c _) h
  · simp at h

/-- The pages of an operation, called for at the host. A call is taken as a whole: its outcome is there
at the first poll. -/
def fetcherWarned (c : OperationClient) (aloud : Bool) (operation : String) :
    Fetcher Exchange Document Error Document where
  fetch input x :=
    let r := c.callWarned aloud operation input x
    (⟨0, r.1⟩, r.2)
  left x := x.answers.length
  left_fetch input x d h := length_callWarned_lt c aloud operation input x d h

def fetcher (c : OperationClient) (operation : String) :
    Fetcher Exchange Document Error Document := c.fetcherWarned false operation

end OperationClient

end Pagewise
