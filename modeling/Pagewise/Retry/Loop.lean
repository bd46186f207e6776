import Pagewise.Error
import Pagewise.Retry.Backoff

/-!
Trying again. An attempt that fails in a retryable way is repeated after a delay until it succeeds,
fails for good, or the retries are used up. The outcome of the last attempt is the outcome of all.
Where warnings are heard every retry is warned of, with the number of all attempts. That number is a
checked sum, and the program stops where a word does not hold it. Where nobody hears the warnings
the sum is not made.
-/
namespace Pagewise

structure Retry where
  error : Error
  /-- Counted from one. -/
  attempt : UInt32
  /-- The number of all attempts; absent if a word does not hold it. -/
  total : Option UInt32
  delay : Duration

def Retry.warning (tell : Error → String) (r : Retry) : Option String :=
  r.total.map fun total =>
    "Request failed (" ++ tell r.error ++ "), attempt " ++ toString r.attempt.toNat ++ "/" ++
      toString total.toNat ++ ", retrying in " ++ r.delay.write

namespace RetryPolicy

/-- A host that says how long it wants to be left alone is believed up to the cap. -/
def delayAfter (p : RetryPolicy) (e : Error) (attempt : UInt32) : Duration :=
  match e with
  | .rateLimited seconds => (Duration.ofSeconds seconds).atMost p.cap
  | _ => p.delay attempt

/-- The number of all attempts, if a word holds it. -/
def total? (p : RetryPolicy) : Option UInt32 :=
  if p.maxRetries.toNat + 1 < UInt32.size then some (p.maxRetries + 1) else none

variable {σ α : Type}

/-- The outcome from an attempt on, with the retries in order; `aloud` if warnings are heard. -/
def attempts (p : RetryPolicy) (aloud : Bool) (send : σ → Except Error α × σ) (attempt : UInt32)
    (s : σ) : Except Error α × List Retry × σ :=
  match send s with
  | (.ok a, t) => (.ok a, [], t)
  | (.error e, t) =>
    if h : e.isRetryable ∧ attempt < p.maxRetries then
      if aloud && p.total?.isNone then (.error .overflow, [], t)
      else
        have : p.maxRetries.toNat - (attempt + 1).toNat < p.maxRetries.toNat - attempt.toNat := by
          have := UInt32.lt_iff_toNat_lt.1 h.2
          have := p.maxRetries.toNat_lt
          rw [UInt32.toNat_add]
          simp
          omega
        let rest := attempts p aloud send (attempt + 1) t
        (rest.1, ⟨e, attempt + 1, p.total?, p.delayAfter e attempt⟩ :: rest.2.1, rest.2.2)
    else (.error e, [], t)
termination_by p.maxRetries.toNat - attempt.toNat

/-- Try until there is an outcome, the warnings aside. -/
def run (p : RetryPolicy) (send : σ → Except Error α × σ) (s : σ) :
    Except Error α × List Retry × σ := p.attempts false send 0 s

def runAloud (p : RetryPolicy) (send : σ → Except Error α × σ) (s : σ) :
    Except Error α × List Retry × σ := p.attempts true send 0 s

theorem measure_attempts_lt {p : RetryPolicy} {aloud : Bool} {send : σ → Except Error α × σ}
    (measure : σ → Nat) (hle : ∀ s, measure (send s).2 ≤ measure s)
    (hlt : ∀ s a, (send s).1 = .ok a → measure (send s).2 < measure s)
    {attempt : UInt32} {s : σ} {a : α} (h : (p.attempts aloud send attempt s).1 = .ok a) :
    measure (p.attempts aloud send attempt s).2.2 < measure s := by
  fun_induction attempts p aloud send attempt s with
  | case1 attempt s b t hs => simpa [hs] using hlt s b (by simp [hs])
  | case2 => simp at h
  | case3 attempt s e t hs hc _ _ rest ih =>
    have := hle s
    rw [hs] at this
    exact Nat.lt_of_lt_of_le (ih h) this
  | case4 => simp at h

end RetryPolicy

end Pagewise
