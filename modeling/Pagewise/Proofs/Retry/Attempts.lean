import Pagewise.Proofs.Steps
import Pagewise.Retry.Loop

/-!
What the retry loop does. Attempts follow one another until one succeeds, fails for good, or is the
last that is allowed. Those before it have all failed in a retryable way.
-/
namespace Pagewise.RetryPolicy

variable {σ α : Type}

def outcomes (retries : List Retry) (last : Except Error α) : List (Except Error α) :=
  retries.map (fun r => .error r.error) ++ [last]

@[simp] theorem length_outcomes (retries : List Retry) (last : Except Error α) :
    (outcomes retries last).length = retries.length + 1 := by
  simp [outcomes]

/-- What the policy promises of the retries and the last outcome of attempts from a number on. -/
structure Keeps (p : RetryPolicy) (attempt : UInt32) (retries : List Retry)
    (last : Except Error α) : Prop where
  retryable : ∀ r ∈ retries, r.error.isRetryable = true
  bounded : retries.length ≤ p.maxRetries.toNat - attempt.toNat
  exhausted : ∀ e, last = .error e → e.isRetryable = true →
    retries.length = p.maxRetries.toNat - attempt.toNat

theorem toNat_succ {attempt bound : UInt32} (h : attempt < bound) :
    (attempt + 1).toNat = attempt.toNat + 1 := by
  have below := UInt32.lt_iff_toNat_lt.1 h
  have := bound.toNat_lt
  rw [UInt32.toNat_add]
  simp
  omega

theorem attempts_keep (p : RetryPolicy) (send : σ → Except Error α × σ) (attempt : UInt32) (s : σ) :
    p.Keeps attempt (p.attempts false send attempt s).2.1 (p.attempts false send attempt s).1 := by
  fun_induction attempts p false send attempt s with
  | case1 attempt s a t _ =>
    exact ⟨by simp, by simp, by simp⟩
  | case2 attempt s e t _ _ stops => cases stops
  | case3 attempt s e t _ more _ _ rest ih =>
    have room := UInt32.lt_iff_toNat_lt.1 more.2
    have next := toNat_succ more.2
    refine ⟨?_, ?_, ?_⟩
    · intro r hr
      rcases List.mem_cons.1 hr with rfl | hr
      · exact more.1
      · exact ih.retryable r hr
    · have bounded : rest.2.1.length ≤ p.maxRetries.toNat - (attempt + 1).toNat := ih.bounded
      rw [List.length_cons]
      omega
    · intro e' failed retryable
      have full : rest.2.1.length = p.maxRetries.toNat - (attempt + 1).toNat :=
        ih.exhausted e' failed retryable
      rw [List.length_cons]
      omega
  | case4 attempt s e t _ last =>
    refine ⟨by simp, by simp, ?_⟩
    rintro e' ⟨⟩ retryable
    -- The error would have been retried, so the retries are used up.
    have full : ¬attempt < p.maxRetries := fun room => last ⟨retryable, room⟩
    have := mt UInt32.lt_iff_toNat_lt.2 full
    simp only [List.length_nil]
    omega

theorem attempts_error (p : RetryPolicy) (aloud : Bool) {send : σ → Except Error α × σ}
    {kept : σ → Prop} {failure : Error → Prop} (keep : ∀ s, kept s → kept (send s).2)
    (fails : ∀ s e, kept s → (send s).1 = .error e → failure e) (stops : failure .overflow)
    (attempt : UInt32) {s : σ} (h : kept s) :
    kept (p.attempts aloud send attempt s).2.2 ∧
      ∀ e, (p.attempts aloud send attempt s).1 = .error e → failure e := by
  fun_induction attempts p aloud send attempt s with
  | case1 attempt s a t is =>
    have := keep s h
    rw [is] at this
    refine ⟨this, fun _ failed => ?_⟩
    cases failed
  | case2 attempt s e t is =>
    have := keep s h
    rw [is] at this
    exact ⟨this, fun _ stopped => Except.error.inj stopped ▸ stops⟩
  | case3 attempt s e t is _ _ _ rest ih =>
    have := keep s h
    rw [is] at this
    exact ih this
  | case4 attempt s e t is =>
    have := keep s h
    rw [is] at this
    exact ⟨this, fun _ failed => Except.error.inj failed ▸ fails s e h (by rw [is])⟩

theorem steps_attempts (p : RetryPolicy) (send : σ → Except Error α × σ) (attempt : UInt32)
    (s : σ) :
    steps send ((p.attempts false send attempt s).2.1.length + 1) s =
      (outcomes (p.attempts false send attempt s).2.1 (p.attempts false send attempt s).1,
        (p.attempts false send attempt s).2.2) := by
  fun_induction attempts p false send attempt s with
  | case1 attempt s a t h => simp [steps, outcomes, h]
  | case2 attempt s e t _ _ stops => cases stops
  | case3 attempt s e t h more _ _ rest ih =>
    rw [List.length_cons, steps_succ_first, h, ih]
    rfl
  | case4 attempt s e t h last => simp [steps, outcomes, h]

end Pagewise.RetryPolicy
