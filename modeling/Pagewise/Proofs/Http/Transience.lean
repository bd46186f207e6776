import Pagewise.Proofs.Http.Course

/-!
Which answers are worth another attempt. Faults of the connection pass, and so do replies that ask for
patience and four kinds of server errors; every other refusal is final, and so is a reply that cannot
be read. A call goes on over answers of the first kind for as long as it may, and ends with the first
of the second.
-/
namespace Pagewise

namespace Reply

/-- The server errors that are taken to pass. Other statuses from 500 on are not among them. -/
def passingErrors : List Nat := [500, 502, 503, 504]

def refusalText (r : Reply) : String :=
  if isBodiless r.status || r.fault.isSome then "" else Text.Utf8.decodeLossy r.body

/-! ### Outcomes -/

variable {r : Reply}

theorem outcome_of_unfinished (limit : Nat)
    (h : isStatus r.status = false ∨ isInterim r.status = true) :
    ∃ f, r.outcome limit = .error (faultError limit f) := by
  unfold outcome
  cases status : isStatus r.status with
  | false => exact ⟨_, rfl⟩
  | true =>
    have interim : isInterim r.status = true := by simpa [status] using h
    rw [interim]
    exact ⟨_, rfl⟩

theorem outcome_of_final (limit : Nat)
    (final : isStatus r.status = true ∧ isInterim r.status = false) :
    r.outcome limit =
      if r.status = 429 then .error (.rateLimited r.retryAfter)
      else if isSuccess r.status then
        if isBodiless r.status then .ok .emptyObject
        else match r.fault with
          | some f => .error (faultError limit f)
          | none => document r.body
      else .error (.status r.status r.refusalText) := by
  have noText : Text.Utf8.decodeLossy [] = "" := by simp [Text.Utf8.decodeLossy, Text.Utf8.pieces]
  unfold outcome refusalText
  rw [final.1, final.2]
  cases isSuccess r.status <;> cases isBodiless r.status <;> cases r.fault <;>
    simp [document, noText]

theorem final_of_success (h : isSuccess r.status = true) :
    (isStatus r.status = true ∧ isInterim r.status = false) ∧ r.status ≠ 429 := by
  simp only [isSuccess, isStatus, isInterim, Bool.and_eq_true, Bool.and_eq_false_iff,
    decide_eq_true_eq, decide_eq_false_iff_not] at h ⊢
  omega

theorem final_of_failure (r : Reply) (h : 400 ≤ r.status ∧ r.status < 600) :
    (isStatus r.status = true ∧ isInterim r.status = false) ∧ isSuccess r.status = false := by
  simp only [isSuccess, isStatus, isInterim, Bool.and_eq_true, Bool.and_eq_false_iff,
    decide_eq_true_eq, decide_eq_false_iff_not]
  omega

end Reply

namespace Answer

open Reply

/-- The attempt has failed for a reason that may pass. -/
inductive Transient : Answer → Prop where
  | unanswered (f : Fault) : Transient (.none f)
  | unfinished {r : Reply} (h : isStatus r.status = false ∨ isInterim r.status = true) :
    Transient (.reply r)
  | throttled {r : Reply} (h : r.status = 429) : Transient (.reply r)
  | serverError {r : Reply} (h : r.status ∈ passingErrors) : Transient (.reply r)
  | cutOff {r : Reply} {f : Fault} (success : isSuccess r.status = true)
    (hasBody : isBodiless r.status = false) (cut : r.fault = some f) : Transient (.reply r)

/-- The attempt has failed with an error that another attempt would not mend. -/
inductive Fatal : Answer → Error → Prop where
  | refused {r : Reply} (final : isStatus r.status = true ∧ isInterim r.status = false)
    (failure : isSuccess r.status = false) (other : r.status ≠ 429 ∧ r.status ∉ passingErrors) :
    Fatal (.reply r) (.status r.status r.refusalText)
  | unreadable {r : Reply} (success : isSuccess r.status = true)
    (hasBody : isBodiless r.status = false) (complete : r.fault = Option.none)
    (notBlank : r.body.all isBlankByte = false)
    (noDocument : (Text.Utf8.decode? r.body).bind Document.parse = Option.none) :
    Fatal (.reply r) (.malformedJson "no JSON document")

/-! ### Outcomes -/

theorem isRetryable_faultError (limit : Nat) (f : Fault) :
    (faultError limit f).isRetryable = true := by
  cases f <;> rfl

theorem isRetryable_status_iff {code : Nat} (text : String) (h : code ≠ 429) :
    (Error.status code text).isRetryable = true ↔ code ∈ passingErrors := by
  simp [Error.isRetryable, Error.isRetryableStatus, passingErrors, h, or_assoc]

theorem outcome_of_transient {a : Answer} (h : a.Transient) (limit : Nat) :
    ∃ e, a.outcome limit = .error e ∧ e.isRetryable = true := by
  cases h with
  | unanswered f => exact ⟨_, rfl, isRetryable_faultError limit f⟩
  | unfinished h =>
    obtain ⟨f, outcome⟩ := outcome_of_unfinished limit h
    exact ⟨_, outcome, isRetryable_faultError limit f⟩
  | @throttled r h =>
    have final := (final_of_failure r (by omega)).1
    refine ⟨.rateLimited r.retryAfter, ?_, rfl⟩
    rw [Answer.outcome, outcome_of_final limit final, if_pos h]
  | @serverError r h =>
    have range : 500 ≤ r.status ∧ r.status < 600 := by
      simp only [passingErrors, List.mem_cons, List.not_mem_nil, or_false] at h
      omega
    obtain ⟨final, failure⟩ := final_of_failure r (by omega)
    have other : r.status ≠ 429 := by omega
    refine ⟨.status r.status r.refusalText, ?_, ?_⟩
    · rw [Answer.outcome, outcome_of_final limit final, if_neg other, failure]
      rfl
    · exact (isRetryable_status_iff _ other).2 h
  | @cutOff r f success hasBody cut =>
    obtain ⟨final, other⟩ := final_of_success success
    refine ⟨faultError limit f, ?_, isRetryable_faultError limit f⟩
    rw [Answer.outcome, outcome_of_final limit final, if_neg other, success, hasBody, cut]
    rfl

theorem outcome_of_fatal {a : Answer} {e : Error} (h : a.Fatal e) (limit : Nat) :
    a.outcome limit = .error e ∧ e.isRetryable = false := by
  cases h with
  | @refused r final failure other =>
    constructor
    · rw [Answer.outcome, outcome_of_final limit final, if_neg other.1, failure]
      rfl
    · exact Bool.eq_false_iff.2 (mt (isRetryable_status_iff _ other.1).1 other.2)
  | @unreadable r success hasBody complete notBlank noDocument =>
    obtain ⟨final, other⟩ := final_of_success success
    refine ⟨?_, rfl⟩
    rw [Answer.outcome, outcome_of_final limit final, if_neg other, success, hasBody, complete]
    simp [document, notBlank, noDocument]

theorem of_success {r : Reply} (success : isSuccess r.status = true) (limit : Nat) :
    (reply r).Transient ∨ (∃ e, (reply r).Fatal e) ∨ ∃ d, (reply r).outcome limit = .ok d := by
  obtain ⟨final, other⟩ := final_of_success success
  have outcome := outcome_of_final limit final
  rw [if_neg other, success, if_pos rfl] at outcome
  rw [Answer.outcome, outcome]
  cases hasBody : isBodiless r.status with
  | true => exact .inr (.inr ⟨.emptyObject, rfl⟩)
  | false =>
    cases cut : r.fault with
    | some f => exact .inl (.cutOff success hasBody cut)
    | none =>
      cases blank : r.body.all isBlankByte with
      | true => exact .inr (.inr ⟨.emptyObject, by simp [document, blank]⟩)
      | false =>
        cases read : (Text.Utf8.decode? r.body).bind Document.parse with
        | none => exact .inr (.inl ⟨_, .unreadable success hasBody cut blank read⟩)
        | some d => exact .inr (.inr ⟨d, by simp [document, blank, read]⟩)

theorem transient_or_fatal_or_ok (a : Answer) (limit : Nat) :
    a.Transient ∨ (∃ e, a.Fatal e) ∨ ∃ d, a.outcome limit = .ok d := by
  cases a with
  | none f => exact .inl (.unanswered f)
  | reply r =>
    by_cases unfinished : isStatus r.status = false ∨ isInterim r.status = true
    · exact .inl (.unfinished unfinished)
    have final : isStatus r.status = true ∧ isInterim r.status = false := by
      simpa [not_or] using unfinished
    by_cases throttled : r.status = 429
    · exact .inl (.throttled throttled)
    by_cases passing : r.status ∈ passingErrors
    · exact .inl (.serverError passing)
    cases success : isSuccess r.status with
    | false => exact .inr (.inl ⟨_, .refused final success ⟨throttled, passing⟩⟩)
    | true => exact of_success success limit

theorem transient_serverError_iff {r : Reply} (h : 500 ≤ r.status ∧ r.status < 600) :
    (reply r).Transient ↔ r.status ∈ passingErrors := by
  obtain ⟨final, failure⟩ := final_of_failure r (by omega)
  refine ⟨fun transient => ?_, .serverError⟩
  cases transient with
  | unfinished unfinished => simp [final.1, final.2] at unfinished
  | throttled throttled => omega
  | serverError passing => exact passing
  | cutOff success => simp [failure] at success

end Answer

namespace RetryPolicy

variable {α : Type} {o : Nat → Except Error α} {p : RetryPolicy} {m : Option Nat}

theorem retriesUpTo_le_maxRetries (p : RetryPolicy) (m : Option Nat) :
    p.retriesUpTo m ≤ p.maxRetries.toNat := by
  cases m with
  | none => exact Nat.le_refl _
  | some m => exact Nat.min_le_right _ _

theorem le_retriesUpTo (first : FirstFinal o m) {n : Nat} (allowed : n ≤ p.maxRetries.toNat)
    (before : ∀ i < n, isFinal (o i) = false) : n ≤ p.retriesUpTo m := by
  cases first with
  | never => exact allowed
  | @first m final =>
    refine Nat.le_min.2 ⟨Nat.le_of_not_lt fun less => ?_, allowed⟩
    rw [before m less] at final
    cases final

theorem retriesUpTo_le (first : FirstFinal o m) {i : Nat} (final : isFinal (o i) = true) :
    p.retriesUpTo m ≤ i := by
  cases first with
  | never retryable =>
    rw [retryable i] at final
    cases final
  | @first m _ before =>
    refine Nat.le_trans (Nat.min_le_left _ _) (Nat.le_of_not_lt fun less => ?_)
    rw [before i less] at final
    cases final

end RetryPolicy

namespace OperationClient

/-- Attempt `i` fails for a reason that may pass. Without a host there is no other way to fail. -/
def MissesAt (c : OperationClient) (x : Exchange) (i : Nat) : Prop :=
  c.endpoint.isWeb = false ∨ ∃ a, x.answers[i]? = some a ∧ a.Transient

def FailsAt (c : OperationClient) (x : Exchange) (i : Nat) (e : Error) : Prop :=
  c.endpoint.isWeb = true ∧ ∃ a, x.answers[i]? = some a ∧ a.Fatal e

variable {c : OperationClient} {x : Exchange} {i : Nat}

theorem isFinal_of_missesAt (h : c.MissesAt x i) :
    RetryPolicy.isFinal (c.outcome x i) = false := by
  rcases h with offline | ⟨a, there, transient⟩
  · rw [outcome, offline]
    rfl
  · unfold outcome
    split
    · obtain ⟨e, outcome, retryable⟩ :=
        Answer.outcome_of_transient transient c.http.settings.timeoutMilliseconds
      rw [there, Option.map_some, Option.getD_some, outcome, RetryPolicy.isFinal, retryable]
      rfl
    · rfl

theorem outcome_of_failsAt {e : Error} (h : c.FailsAt x i e) :
    c.outcome x i = .error e ∧ RetryPolicy.isFinal (c.outcome x i) = true := by
  obtain ⟨web, a, there, fatal⟩ := h
  obtain ⟨outcome, final⟩ := Answer.outcome_of_fatal fatal c.http.settings.timeoutMilliseconds
  rw [OperationClient.outcome, if_pos web, there, Option.map_some, Option.getD_some, outcome]
  exact ⟨rfl, by rw [RetryPolicy.isFinal, final]; rfl⟩

theorem course_group (c : OperationClient) (operation : String) (input : Document) (x : Exchange) :
    c.http.settings.retry.Course (c.outcome x) (c.group operation input x).last
      (c.group operation input x).retries := by
  rw [group_recorded]
  exact (c.http.settings.retry.course_run (c.outcome x) (c.posted operation input)).1

/-- A call goes on for as long as its attempts fail for reasons that may pass, until all those that are
allowed have been made. An attempt that fails for good is the last one, and its error is that of the
call. Every answer is of one of these kinds or a document, and of the server errors only those on the
list are of the first. -/
theorem call_retries (c : OperationClient) :
    (∀ (operation : String) (input : Document) (x : Exchange),
      Headers.isValue (c.target operation) = true →
      let r := c.call operation input x
      let allowed := c.http.settings.retry.maxRetries.toNat
      ∃ retries : List Retry,
        r.2.retried = x.retried ++ retries ∧
        r.2.sent = x.sent ++
          c.heard (List.replicate (retries.length + 1) (c.posted operation input)) ∧
        retries.length ≤ allowed ∧
        (∀ n ≤ allowed, (∀ i < n, c.MissesAt x i) → n ≤ retries.length) ∧
        ∀ i ≤ retries.length, ∀ e, c.FailsAt x i e → retries.length = i ∧ r.1 = .error e) ∧
    (∀ (a : Answer) (limit : Nat),
      a.Transient ∨ (∃ e, a.Fatal e) ∨ ∃ d, a.outcome limit = .ok d) ∧
    ∀ r : Reply, 500 ≤ r.status ∧ r.status < 600 →
      ((Answer.reply r).Transient ↔ r.status ∈ Reply.passingErrors) := by
  refine ⟨fun operation input x legal => ?_, Answer.transient_or_fatal_or_ok,
    fun _ => Answer.transient_serverError_iff⟩
  intro r allowed
  have course := c.course_group operation input x
  have splits := splits_call x legal input
  have outcome : r.1 = (c.group operation input x).last := fst_call x legal input
  have request : (c.group operation input x).request = c.posted operation input := rfl
  -- Nothing but its course is known of the loop from here on.
  generalize c.group operation input x = g at course splits outcome request
  obtain ⟨m, first, count⟩ := course.count
  refine ⟨g.retries, ?_, ?_, ?_, ?_, ?_⟩
  · rw [splits.retried, List.flatMap_singleton]
  · rw [splits.sent, List.flatMap_singleton, Group.requests, Group.outcomes,
      RetryPolicy.length_outcomes, request]
  · rw [count]
    exact RetryPolicy.retriesUpTo_le_maxRetries _ m
  · intro n within misses
    rw [count]
    exact RetryPolicy.le_retriesUpTo first within fun i less => isFinal_of_missesAt (misses i less)
  · intro i made e fails
    obtain ⟨error, final⟩ := outcome_of_failsAt fails
    have last : g.retries.length = i := by
      rw [count] at made ⊢
      exact Nat.le_antisymm (RetryPolicy.retriesUpTo_le first final) made
    exact ⟨last, by rw [outcome, course.last, last, error]⟩

def notImplemented : Reply := ⟨501, [], "no".toUTF8.toList, none⟩

theorem refusalText_notImplemented : notImplemented.refusalText = "no" := by decide +kernel

theorem fatal_notImplemented : (Answer.reply notImplemented).Fatal (.status 501 "no") :=
  refusalText_notImplemented ▸ .refused (by decide) (by decide) (by decide)

theorem listItems_retries :
    let c : OperationClient :=
      ⟨⟨default, .empty⟩, ⟨"http", some ⟨"", "", .domain "localhost", none⟩, "/", none, none⟩,
        some "Items"⟩
    let x := Exchange.ofAnswers [.reply ⟨503, [], [], none⟩, .reply notImplemented,
      .reply ⟨200, [], [], none⟩] (.connection "closed")
    let r := c.call "ListItems" .emptyObject x
    Headers.isValue (c.target "ListItems") = true ∧ c.MissesAt x 0 ∧
      c.FailsAt x 1 (.status 501 "no") ∧ r.1 = .error (.status 501 "no") ∧
      r.2.sent = List.replicate 2 (c.posted "ListItems" .emptyObject) := by
  intro c x r
  have legal : Headers.isValue (c.target "ListItems") = true := by decide
  have misses : c.MissesAt x 0 := .inr ⟨_, rfl, .serverError (by decide)⟩
  have fails : c.FailsAt x 1 (.status 501 "no") := ⟨rfl, _, rfl, fatal_notImplemented⟩
  have allowed : c.http.settings.retry.maxRetries.toNat = 3 := rfl
  obtain ⟨retries, _, sent, within, goesOn, ends⟩ :=
    c.call_retries.1 "ListItems" .emptyObject x legal
  have tried : 1 ≤ retries.length := goesOn 1 (by omega) fun i first => by
    obtain rfl : i = 0 := by omega
    exact misses
  obtain ⟨last, failed⟩ := ends 1 tried _ fails
  exact ⟨legal, misses, fails, failed, by rw [sent, last]; rfl⟩

/-- A server error that is not on the list is not tried again, though three retries are left. -/
theorem notImplemented_not_retried :
    let c : OperationClient :=
      ⟨⟨default, .empty⟩, ⟨"http", some ⟨"", "", .domain "localhost", none⟩, "/", none, none⟩,
        some "Items"⟩
    let x := Exchange.ofAnswers [.reply notImplemented, .reply ⟨200, [], [], none⟩]
      (.connection "closed")
    let r := c.call "ListItems" .emptyObject x
    500 ≤ notImplemented.status ∧ notImplemented.status < 600 ∧
      c.http.settings.retry.maxRetries = 3 ∧ r.1 = .error (.status 501 "no") ∧
      r.2.retried = [] ∧ r.2.sent = [c.posted "ListItems" .emptyObject] := by
  intro c x r
  have legal : Headers.isValue (c.target "ListItems") = true := by decide
  have fails : c.FailsAt x 0 (.status 501 "no") := ⟨rfl, _, rfl, fatal_notImplemented⟩
  have refused : c.outcome x 0 = .error (.status 501 "no") := (outcome_of_failsAt fails).1
  have tried : c.group "ListItems" .emptyObject x =
      ⟨c.posted "ListItems" .emptyObject, [], .error (.status 501 "no")⟩ := by
    rw [group_recorded]
    simp [RetryPolicy.run, RetryPolicy.attempts, RetryPolicy.recorded, refused,
      Error.isRetryable, Error.isRetryableStatus]
  have splits := splits_call x legal .emptyObject
  rw [tried] at splits
  refine ⟨by decide, by decide, rfl, ?_, splits.retried, splits.sent⟩
  exact (fst_call x legal .emptyObject).trans (by rw [tried])

end OperationClient

end Pagewise
