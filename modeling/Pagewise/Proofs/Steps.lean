/-!
Taking the same step again and again. A step gives a result and the next state; `steps` keeps the
results in order.
-/
namespace Pagewise

variable {S A : Type}

/-- The results of `n` steps in order, and the state that they leave. -/
def steps (step : S → A × S) : Nat → S → List A × S
  | 0, s => ([], s)
  | n + 1, s =>
    let before := steps step n s
    let last := step before.2
    (before.1 ++ [last.1], last.2)

theorem steps_succ (step : S → A × S) (n : Nat) (s : S) :
    steps step (n + 1) s =
      ((steps step n s).1 ++ [(step (steps step n s).2).1], (step (steps step n s).2).2) := rfl

theorem steps_add (step : S → A × S) (m n : Nat) (s : S) :
    steps step (m + n) s =
      ((steps step m s).1 ++ (steps step n (steps step m s).2).1,
        (steps step n (steps step m s).2).2) := by
  induction n with
  | zero => simp [steps]
  | succ n ih => rw [← Nat.add_assoc, steps_succ, ih, steps_succ, List.append_assoc]

theorem steps_succ_first (step : S → A × S) (n : Nat) (s : S) :
    steps step (n + 1) s =
      ((step s).1 :: (steps step n (step s).2).1, (steps step n (step s).2).2) := by
  rw [Nat.add_comm, steps_add]
  rfl

theorem mem_steps (step : S → A × S) {n : Nat} {s : S} {a : A} :
    a ∈ (steps step n s).1 ↔ ∃ k < n, (step (steps step k s).2).1 = a := by
  induction n with
  | zero => simp [steps]
  | succ n ih =>
    rw [steps_succ, List.mem_append, ih, List.mem_singleton]
    constructor
    · rintro (⟨k, before, is⟩ | last)
      · exact ⟨k, Nat.lt_succ_of_lt before, is⟩
      · exact ⟨n, Nat.lt_succ_self n, last.symm⟩
    · rintro ⟨k, before, is⟩
      rcases Nat.lt_succ_iff_lt_or_eq.1 before with before | rfl
      · exact .inl ⟨k, before, is⟩
      · exact .inr is.symm

theorem steps_map {T : Type} (f : S → T) {step : S → A × S} {step' : T → A × T}
    (along : ∀ s, step' (f s) = ((step s).1, f (step s).2)) (n : Nat) (s : S) :
    steps step' n (f s) = ((steps step n s).1, f (steps step n s).2) := by
  induction n with
  | zero => rfl
  | succ n ih => rw [steps_succ, ih, along, steps_succ]

end Pagewise
