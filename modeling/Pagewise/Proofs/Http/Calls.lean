import Pagewise.Proofs.Http.PageGroups

/-!
Calls of an operation one after another. Under a legal target none of them fails with a configuration
error; under any other target they all do, and the host does not hear of them.
-/
namespace Pagewise

namespace Reply

theorem isConfiguration_faultError (limit : Nat) (f : Fault) :
    (faultError limit f).isConfiguration = false := by
  cases f <;> rfl

theorem isConfiguration_of_document {body : List UInt8} {e : Error}
    (h : document body = .error e) : e.isConfiguration = false := by
  rw [document] at h
  split at h
  · cases h
  · split at h
    · cases h
    · cases h
      rfl

theorem isConfiguration_of_outcome {limit : Nat} {r : Reply} {e : Error}
    (h : r.outcome limit = .error e) : e.isConfiguration = false := by
  simp only [outcome] at h
  split at h
  · cases h
    exact isConfiguration_faultError limit .closed
  split at h
  · cases h
    exact isConfiguration_faultError limit _
  split at h
  · cases h
    rfl
  split at h
  · cases h
    rfl
  split at h
  · cases h
    exact isConfiguration_faultError limit _
  · exact isConfiguration_of_document h

end Reply

theorem Answer.isConfiguration_of_outcome {limit : Nat} {a : Answer} {e : Error}
    (h : a.outcome limit = .error e) : e.isConfiguration = false := by
  cases a with
  | reply r => exact Reply.isConfiguration_of_outcome h
  | none f =>
    cases h
    exact Reply.isConfiguration_faultError limit f

namespace OperationClient

variable (c : OperationClient) (operation : String)

theorem isConfiguration_of_outcome {x : Exchange} (transport : x.beyond.isConfiguration = false)
    {i : Nat} {e : Error} (h : c.outcome x i = .error e) : e.isConfiguration = false := by
  rw [outcome] at h
  split at h
  · cases answered : x.answers[i]? with
    | none =>
      rw [answered] at h
      cases h
      exact transport
    | some a =>
      rw [answered] at h
      exact a.isConfiguration_of_outcome h
  · cases h
    rfl

theorem beyond_attempt (r : HttpRequest) (x : Exchange) : (c.attempt r x).2.beyond = x.beyond := by
  obtain ⟨answers, beyond, requests, retries⟩ := x
  unfold attempt
  split
  · cases answers <;> rfl
  · rfl

variable {c operation} {aloud : Bool}

/-- A call under a legal target fails as an attempt does, or for want of numbers. -/
theorem isConfiguration_of_call (aloud : Bool) (legal : Headers.isValue (c.target operation) = true)
    (input : Document) {x : Exchange} (transport : x.beyond.isConfiguration = false) :
    (c.callWarned aloud operation input x).2.beyond.isConfiguration = false ∧
      ∀ e, (c.callWarned aloud operation input x).1 = .error e → e.isConfiguration = false := by
  rw [callWarned, if_pos legal]
  have keep : ∀ y : Exchange, y.beyond.isConfiguration = false →
      (c.attempt (c.posted operation input) y).2.beyond.isConfiguration = false := by
    intro y kept
    rw [beyond_attempt]
    exact kept
  have fails : ∀ (y : Exchange) (e : Error), y.beyond.isConfiguration = false →
      (c.attempt (c.posted operation input) y).1 = .error e → e.isConfiguration = false := by
    intro y e kept failed
    rw [attempt_fst] at failed
    exact c.isConfiguration_of_outcome kept failed
  exact RetryPolicy.attempts_error _ aloud keep fails rfl 0 transport

theorem call_of_illegal (illegal : Headers.isValue (c.target operation) = false)
    (input : Document) (x : Exchange) :
    c.callWarned aloud operation input x =
      (.error (.invalidValue "target_prefix" Headers.badValue), x) := by
  rw [callWarned]
  simp only [illegal, Bool.false_eq_true, if_false]

/-! ### Calls in order -/

variable {op : PagedOperation}

theorem fetch_pages_warned (req : DocumentRequest) (x : Exchange) :
    (op.pages (c.fetcherWarned aloud op.name)).fetch req x =
      (⟨0, op.paged (c.callWarned aloud op.name req.body x).1⟩,
        (c.callWarned aloud op.name req.body x).2) := rfl

/-- A page that fails with a configuration error is the first one, and the host has not heard of it. -/
theorem pulls_of_configuration (input : Document) {x : Exchange}
    (transport : x.beyond.isConfiguration = false) (n : Nat) {e : Error}
    (configuration : e.isConfiguration = true) :
    let p := steps (PageIterator.pull (op.pages (c.fetcherWarned aloud op.name)).fetch) n
      (op.paginateBlocking input, x)
    some (.error e) ∈ p.1 → pagesIn p.1 = [] ∧ p.2.2 = x := by
  intro p failed
  cases legal : Headers.isValue (c.target op.name) with
  | true =>
    have sound : p.2.2.beyond.isConfiguration = false ∧
        ∀ e ∈ errorsIn p.1, e.isConfiguration = false := by
      refine PageIterator.pulls_induction _ (P := fun _ results _ (y : Exchange) =>
        y.beyond.isConfiguration = false ∧ ∀ e : Error, e ∈ errorsIn results →
          e.isConfiguration = false)
        ⟨transport, by simp [errorsIn]⟩ ?_ ?_ n
      · rintro n results it y ⟨kept, before⟩ _
        obtain ⟨kept, last⟩ := isConfiguration_of_call aloud legal it.request.body kept
        rw [fetch_pages_warned]
        refine ⟨kept, fun e among => ?_⟩
        rw [errorsIn_append, List.mem_append] at among
        rcases among with among | among
        · exact before e among
        · refine last e ?_
          cases called : (c.callWarned aloud op.name it.request.body y).1 with
          | ok body => simp [called, PagedOperation.paged, Except.map] at among
          | error e' => simpa [called, PagedOperation.paged, Except.map, eq_comm] using among
      · rintro n results it y ⟨kept, before⟩ _
        exact ⟨kept, by simpa using before⟩
    have := sound.2 e ((mem_errorsIn _).2 failed)
    exact absurd (configuration.symm.trans this) (by decide)
  | false =>
    refine PageIterator.pulls_induction _ (P := fun _ results _ y =>
      pagesIn results = [] ∧ y = x) ⟨rfl, rfl⟩ ?_ ?_ n
    · rintro n results it y ⟨none_before, rfl⟩ _
      rw [fetch_pages_warned, call_of_illegal legal]
      exact ⟨by rw [pagesIn_append, none_before]; rfl, rfl⟩
    · rintro n results it y ⟨none_before, rfl⟩ _
      exact ⟨by rw [pagesIn_append, none_before]; rfl, rfl⟩

end OperationClient

end Pagewise
