import Pagewise.Proofs.Paging.Poll

/-!
Polls beside pulls. A relation between two states that a pending poll keeps, and that an answered
one keeps together with a pull of the same answer, carries over to any number of polls; and where
every state comes to an answer, so does any number of demands.
-/
namespace Pagewise

variable {X Y α : Type} {poll : X → Poll α × X}

/-- A poll either is pending and leaves the other side alone, or is answered as a pull is. -/
def Simulates (poll : X → Poll α × X) (pull : Y → α × Y) (R : X → Y → Prop) : Prop :=
  ∀ x y, R x y →
    ((poll x).1 = .pending ∧ R (poll x).2 y) ∨
    ((poll x).1 = .ready (pull y).1 ∧ R (poll x).2 (pull y).2)

theorem Simulates.polls {pull : Y → α × Y} {R : X → Y → Prop} (sim : Simulates poll pull R)
    {x : X} {y : Y} (h : R x y) (n : Nat) :
    (steps pull (answersIn (steps poll n x).1).length y).1 = answersIn (steps poll n x).1 ∧
      R (steps poll n x).2 (steps pull (answersIn (steps poll n x).1).length y).2 := by
  induction n with
  | zero => exact ⟨rfl, h⟩
  | succ n ih =>
    obtain ⟨same, related⟩ := ih
    rw [steps_succ, answersIn_append]
    rcases sim _ _ related with ⟨pending, next⟩ | ⟨ready, next⟩
    · rw [pending, answersIn_pending, List.append_nil]
      exact ⟨same, next⟩
    · rw [ready, answersIn_ready, List.length_append, List.length_singleton, steps_succ, same]
      exact ⟨rfl, next⟩

/-! ### Answers to come -/

def Answers (poll : X → Poll α × X) (x : X) : Prop :=
  ∃ n a, (steps poll (n + 1) x).1 = List.replicate n .pending ++ [.ready a]

theorem answers_of_ready {x : X} {a : α} (h : (poll x).1 = .ready a) : Answers poll x :=
  ⟨0, a, by rw [steps_succ_first, h]; rfl⟩

theorem answers_of_pending {x : X} (h : (poll x).1 = .pending) (later : Answers poll (poll x).2) :
    Answers poll x := by
  obtain ⟨n, a, results⟩ := later
  exact ⟨n + 1, a, by rw [steps_succ_first, h, results]; rfl⟩

theorem answers_of_eq {x x' : X} (h : poll x = poll x') (later : Answers poll x') :
    Answers poll x := by
  obtain ⟨n, a, results⟩ := later
  refine ⟨n, a, ?_⟩
  rw [← results, steps_succ_first, steps_succ_first, h]

theorem answersIn_replicate_pending (n : Nat) :
    answersIn (List.replicate n (.pending : Poll α)) = [] := by
  simp [answersIn]

/-- Where every state comes to an answer, any number of demands is answered in the end. -/
theorem exists_polls {P : X → Prop} (kept : ∀ x, P x → P (poll x).2)
    (answers : ∀ x, P x → Answers poll x) {x : X} (h : P x) (m : Nat) :
    ∃ n, (answersIn (steps poll n x).1).length = m ∧
      (steps poll n x).1.getLast? ≠ some .pending := by
  have kept_steps : ∀ n, P (steps poll n x).2 := by
    intro n
    induction n with
    | zero => exact h
    | succ n ih => exact kept _ ih
  induction m with
  | zero => exact ⟨0, rfl, by simp [steps]⟩
  | succ m ih =>
    obtain ⟨n, count, _⟩ := ih
    obtain ⟨d, a, results⟩ := answers _ (kept_steps n)
    refine ⟨n + (d + 1), ?_, ?_⟩
    · rw [steps_add, results, answersIn_append, answersIn_append, answersIn_replicate_pending,
        answersIn_ready, List.length_append, count]
      rfl
    · rw [steps_add, results, ← List.append_assoc, List.getLast?_concat]
      simp

end Pagewise
