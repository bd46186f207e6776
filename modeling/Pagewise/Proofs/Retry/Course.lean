import Mathlib.Data.Nat.Find
import Pagewise.Proofs.Retry.Attempts

/-!
The course of a request that is tried again, told from the outcomes that its attempts would come to.
The first final outcome ends it, or the last attempt that is allowed. After every attempt but the last
there is a delay: what the host asks for, or that of the attempt's number, up to the cap.
-/
namespace Pagewise.RetryPolicy

variable {σ ρ α : Type}

/-! ### Outcomes by position -/

def isFinal : Except Error α → Bool
  | .ok _ => true
  | .error e => !e.isRetryable

/-- The position of the first final outcome, if any. -/
inductive FirstFinal (o : Nat → Except Error α) : Option Nat → Prop where
  | first {n : Nat} (final : isFinal (o n) = true) (before : ∀ i < n, isFinal (o i) = false) :
    FirstFinal o (some n)
  | never (retryable : ∀ i, isFinal (o i) = false) : FirstFinal o none

theorem exists_firstFinal (o : Nat → Except Error α) : ∃ n, FirstFinal o n := by
  by_cases some_final : ∃ n, isFinal (o n) = true
  · refine ⟨some (Nat.find some_final), .first (Nat.find_spec some_final) fun i before => ?_⟩
    exact Bool.eq_false_iff.2 (Nat.find_min some_final before)
  · exact ⟨none, .never fun i => Bool.eq_false_iff.2 fun final => some_final ⟨i, final⟩⟩

def retriesUpTo (p : RetryPolicy) : Option Nat → Nat
  | some n => min n p.maxRetries.toNat
  | none => p.maxRetries.toNat

def wait (p : RetryPolicy) (attempt : Nat) : Except Error α → Nat
  | .error (.rateLimited seconds) => min (seconds * Duration.second) p.cap.nanoseconds
  | _ => (p.delay (.ofNat attempt)).nanoseconds

/-- What becomes of a request: as many retries as there are outcomes before the first final one, or
as are allowed, each after the failed attempt of its number, and then the outcome that counts. -/
structure Course (p : RetryPolicy) (o : Nat → Except Error α) (last : Except Error α)
    (retries : List Retry) : Prop where
  count : ∃ n, FirstFinal o n ∧ retries.length = p.retriesUpTo n
  last : last = o retries.length
  retried : ∀ (i : Nat) (h : i < retries.length), o i = .error retries[i].error ∧
    retries[i].attempt.toNat = i + 1 ∧ retries[i].delay.nanoseconds = p.wait i (o i)
  capped : ∀ r ∈ retries, r.delay.nanoseconds ≤ p.cap.nanoseconds

/-! ### Delays -/

theorem nanoseconds_delayAfter (p : RetryPolicy) (e : Error) (attempt : Nat) :
    (p.delayAfter e (.ofNat attempt)).nanoseconds = p.wait attempt (.error e : Except Error α) := by
  cases e with
  | rateLimited seconds =>
    have := p.cap.le_longest
    rw [delayAfter, Duration.nanoseconds_atMost, Duration.ofSeconds, Duration.nanoseconds_clamp,
      wait]
    omega
  | _ => rfl

theorem wait_le_cap (p : RetryPolicy) (attempt : Nat) (r : Except Error α) :
    p.wait attempt r ≤ p.cap.nanoseconds := by
  unfold wait
  split
  · exact Nat.min_le_right _ _
  · rw [delay, Duration.nanoseconds_atMost]
    exact Nat.min_le_right _ _

theorem getElem_attempts (p : RetryPolicy) (aloud : Bool) (send : σ → Except Error α × σ)
    (attempt : UInt32) (s : σ) (i : Nat) (h : i < (p.attempts aloud send attempt s).2.1.length) :
    (p.attempts aloud send attempt s).2.1[i].attempt.toNat = attempt.toNat + i + 1 ∧
    (p.attempts aloud send attempt s).2.1[i].delay =
      p.delayAfter (p.attempts aloud send attempt s).2.1[i].error (.ofNat (attempt.toNat + i)) := by
  fun_induction attempts p aloud send attempt s generalizing i with
  | case1 => simp at h
  | case2 => simp at h
  | case3 attempt s e t _ more _ _ rest ih =>
    have next := toNat_succ more.2
    cases i with
    | zero => exact ⟨next, by simp⟩
    | succ i =>
      have later := ih i (by simpa using h)
      rw [next] at later
      rw [List.getElem_cons_succ, ← Nat.add_assoc, Nat.add_right_comm attempt.toNat i 1]
      exact later
  | case4 => simp at h

/-! ### Attempts on a record -/

def recorded (o : Nat → Except Error α) (request : ρ) (asked : List ρ) : Except Error α × List ρ :=
  (o asked.length, asked ++ [request])

theorem steps_recorded (o : Nat → Except Error α) (request : ρ) (n : Nat) :
    steps (recorded o request) n [] = ((List.range n).map o, List.replicate n request) := by
  induction n with
  | zero => rfl
  | succ n ih =>
    rw [steps_succ, ih, recorded, List.length_replicate, List.range_succ, List.map_append,
      List.replicate_succ']
    rfl

theorem length_retries {p : RetryPolicy} {o : Nat → Except Error α} {k : Nat} {n : Option Nat}
    (bounded : k ≤ p.maxRetries.toNat) (before : ∀ i < k, isFinal (o i) = false)
    (ended : isFinal (o k) = true ∨ k = p.maxRetries.toNat) (first : FirstFinal o n) :
    k = p.retriesUpTo n := by
  cases first with
  | @first n final before_n =>
    have reached : k ≤ n := by
      refine Nat.le_of_not_lt fun beyond => ?_
      rw [before n beyond] at final
      cases final
    rw [retriesUpTo]
    rcases ended with here | full
    · have not_before : ¬ k < n := by
        intro less
        rw [before_n k less] at here
        cases here
      omega
    · omega
  | never retryable =>
    rw [retryable k] at ended
    exact ended.resolve_left Bool.false_ne_true

theorem run_recorded (p : RetryPolicy) (o : Nat → Except Error α) (request : ρ) :
    let t := p.run (recorded o request) []
    (∀ (i : Nat) (h : i < t.2.1.length), o i = .error t.2.1[i].error) ∧
      t.1 = o t.2.1.length ∧ t.2.2 = List.replicate (t.2.1.length + 1) request := by
  have made := p.steps_attempts (recorded o request) 0 []
  rw [run]
  generalize p.attempts false (recorded o request) 0 [] = t at made ⊢
  obtain ⟨last, retries, asked⟩ := t
  simp only at made ⊢
  rw [steps_recorded, List.range_succ, List.map_append, outcomes, Prod.mk.injEq] at made
  obtain ⟨in_order, there⟩ := made
  obtain ⟨failed, counts⟩ := List.append_inj' in_order rfl
  refine ⟨fun i h => ?_, (List.singleton_inj.1 counts).symm, there.symm⟩
  have here := congrArg (·[i]?) failed
  simpa [h] using here

/-- The loop takes its course over any outcomes, and asks with one request throughout. -/
theorem course_run (p : RetryPolicy) (o : Nat → Except Error α) (request : ρ) :
    let t := p.run (recorded o request) []
    p.Course o t.1 t.2.1 ∧ t.2.2 = List.replicate (t.2.1.length + 1) request := by
  obtain ⟨failed, counts, asked⟩ := p.run_recorded o request
  have keeps := p.attempts_keep (recorded o request) 0 []
  have numbered := p.getElem_attempts false (recorded o request) 0 []
  rw [run] at failed counts asked ⊢
  generalize p.attempts false (recorded o request) 0 [] = t at failed counts asked keeps numbered ⊢
  obtain ⟨last, retries, log⟩ := t
  simp only [UInt32.toNat_zero, Nat.zero_add] at failed counts asked keeps numbered ⊢
  have before : ∀ i < retries.length, isFinal (o i) = false := by
    intro i h
    rw [failed i h, isFinal, keeps.retryable _ (List.getElem_mem h)]
    rfl
  have ended : isFinal (o retries.length) = true ∨ retries.length = p.maxRetries.toNat := by
    rw [← counts]
    cases last with
    | ok a => exact .inl rfl
    | error e =>
      cases retryable : e.isRetryable with
      | false => exact .inl (by rw [isFinal, retryable]; rfl)
      | true => exact .inr (keeps.exhausted e rfl retryable)
  have waits : ∀ (i : Nat) (h : i < retries.length),
      retries[i].delay.nanoseconds = p.wait i (o i) := by
    intro i h
    rw [failed i h, (numbered i h).2]
    exact p.nanoseconds_delayAfter _ i
  obtain ⟨n, first⟩ := exists_firstFinal o
  refine ⟨⟨⟨n, first, length_retries keeps.bounded before ended first⟩, counts, ?_, ?_⟩, asked⟩
  · exact fun i h => ⟨failed i h, (numbered i h).1, waits i h⟩
  · intro r among
    obtain ⟨i, h, rfl⟩ := List.getElem_of_mem among
    rw [waits i h]
    exact p.wait_le_cap i (o i)

/-! ### Attempts of any kind -/

theorem attempts_map {τ : Type} (p : RetryPolicy) (f : σ → τ) {send : σ → Except Error α × σ}
    {send' : τ → Except Error α × τ} (along : ∀ s, send' (f s) = ((send s).1, f (send s).2))
    (attempt : UInt32) (s : σ) :
    p.attempts false send' attempt (f s) = ((p.attempts false send attempt s).1,
      (p.attempts false send attempt s).2.1, f (p.attempts false send attempt s).2.2) := by
  fun_induction attempts p false send attempt s with
  | case1 attempt s a t is => rw [attempts, along, is]
  | case2 attempt s e t _ _ stops => cases stops
  | case3 attempt s e t is more _ _ rest ih =>
    rw [attempts, along, is]
    simp only [more, and_self, dite_true, Bool.false_and, Bool.false_eq_true, if_false, ih]
    rfl
  | case4 attempt s e t is last =>
    rw [attempts, along, is]
    simp only [last, dite_false]

/-- Any attempts have outcomes by position, and are tried again as if these were on a record. -/
theorem run_eq_recorded (p : RetryPolicy) (send : σ → Except Error α × σ) (s : σ)
    {o : Nat → Except Error α} (outcome : ∀ i, (send (steps send i s).2).1 = o i) (request : ρ) :
    p.run send s = ((p.run (recorded o request) []).1, (p.run (recorded o request) []).2.1,
      (steps send (p.run (recorded o request) []).2.2.length s).2) := by
  refine p.attempts_map (fun asked : List ρ => (steps send asked.length s).2) ?_ 0 []
  intro asked
  rw [recorded, List.length_append, List.length_singleton, steps_succ, ← outcome]

end Pagewise.RetryPolicy
