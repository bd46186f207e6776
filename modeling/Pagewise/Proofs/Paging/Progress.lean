import Pagewise.Proofs.Paging.StreamRun

/-!
Every demand on a page stream is answered. A fetch is pending for a number of polls that is known
when it is made, and each pending poll leaves one less.
-/
namespace Pagewise.PageStream

variable {σ Req E Page C : Type} [CursorRequest Req C] [Cursor C] [CursorResponse Page C]

/-- What holds before a poll that is answered, and before a pending one if it holds after it, holds
of every stream alongside an iterator. -/
theorem Alongside.wait_induction {fetch : Fetch σ Req E Page} {y : PageIterator Req C × σ}
    {P : PageStream Req C E Page × σ → Prop}
    (pending : ∀ x, (pollNext fetch x).1 = .pending → P (pollNext fetch x).2 → P x)
    (ready : ∀ x, (pollNext fetch x).1 = .ready (PageIterator.pull fetch y).1 →
      (pollNext fetch x).2.1.inFlight = none →
      Alongside fetch (pollNext fetch x).2 (PageIterator.pull fetch y).2 → P x)
    {x : PageStream Req C E Page × σ} (h : Alongside fetch x y) : P x := by
  -- The iterator stays where it is; each pending poll leaves fewer of them.
  induction hw : wait fetch x.1 x.2 using Nat.strongRecOn generalizing x with
  | ind w ih =>
    rcases h.poll_cases with ⟨waits, next⟩ | ⟨answered, idle, next⟩
    · exact pending x waits (ih _ (hw ▸ wait_poll waits) next rfl)
    · exact ready x answered idle next

theorem Alongside.answers {fetch : Fetch σ Req E Page} {x : PageStream Req C E Page × σ}
    {y : PageIterator Req C × σ} (h : Alongside fetch x y) : Answers (pollNext fetch) x :=
  h.wait_induction (fun _ waits later => answers_of_pending waits later)
    fun _ answered _ _ => answers_of_ready answered

theorem exists_polls_start (fetch : Fetch σ Req E Page) (initial : Req) (behavior : EndBehavior)
    (s : σ) (m : Nat) :
    ∃ n, (answersIn (steps (pollNext fetch) n (start initial behavior, s)).1).length = m ∧
      (steps (pollNext fetch) n (start initial behavior, s)).2.1.inFlight = none := by
  have first := alongside_start fetch initial behavior s
  have kept : ∀ x : PageStream Req C E Page × σ, (∃ y, Alongside fetch x y) →
      ∃ y, Alongside fetch (pollNext fetch x).2 y := by
    rintro x ⟨y, h⟩
    rcases h.poll_cases with ⟨_, next⟩ | ⟨_, _, next⟩
    · exact ⟨_, next⟩
    · exact ⟨_, next⟩
  obtain ⟨n, count, answered⟩ := exists_polls kept (fun _ ⟨_, h⟩ => h.answers) ⟨_, first⟩ m
  exact ⟨n, count, first.idle_of_getLast? rfl n answered⟩

end Pagewise.PageStream
