import Pagewise.Proofs.Paging.IteratorRun
import Pagewise.Proofs.Paging.Simulation

/-!
The page stream beside the page iterator. While a fetch is in flight the stream is one fetch ahead
of the iterator and otherwise where it was; a poll that is answered brings both to the same point
again.
-/
namespace Pagewise.PageStream

variable {σ Req E Page C : Type} [CursorRequest Req C]

/-- A stream and an iterator at the same point of a run. The fetch that the stream has in flight is
the one that the iterator makes when it is pulled next. -/
inductive Alongside (fetch : Fetch σ Req E Page) :
    PageStream Req C E Page × σ → PageIterator Req C × σ → Prop where
  | idle (it it' : PageIterator Req C) (s : σ) (same : it'.begun = it.begun) :
    Alongside fetch (ofIterator it' none, s) (it, s)
  | waiting (it : PageIterator Req C) (s : σ) (delayed : Delayed (Except E Page))
    (live : it.isLive = true) (value : delayed.value = (fetch it.request s).1.value) :
    Alongside fetch (ofIterator it.begun (some delayed), (fetch it.request s).2) (it, s)

namespace Alongside

variable {fetch : Fetch σ Req E Page} {x : PageStream Req C E Page × σ} {y : PageIterator Req C × σ}

theorem same_view (h : Alongside fetch x y) :
    x.1.pagesFetched = y.1.pagesFetched ∧ x.1.cursor = y.1.cursor ∧
      x.1.failed = y.1.failed := by
  cases h with
  | idle it it' s same =>
    obtain ⟨_, _, _, failed, cursor, pages⟩ := PageIterator.eq_of_begun_eq same
    exact ⟨pages, cursor, failed⟩
  | waiting it s delayed _ _ =>
    exact ⟨it.pagesFetched_begun, it.cursor_begun, it.failed_begun⟩

theorem eq_of_idle (h : Alongside fetch x y) (idle : x.1.inFlight = none) : x.2 = y.2 := by
  cases h with
  | idle => rfl
  | waiting => simp at idle

variable [Cursor C] [CursorResponse Page C]

theorem eq_of_waiting (h : Alongside fetch x y) {delayed : Delayed (Except E Page)}
    (flying : x.1.inFlight = some delayed) : x.2 = (PageIterator.pull fetch y).2.2 := by
  cases h with
  | idle => simp at flying
  | waiting it s _ live _ => rw [PageIterator.pull_of_live fetch s live]

theorem waitFor_cases {it : PageIterator Req C} {s : σ} {delayed : Delayed (Except E Page)}
    (live : it.isLive = true) (value : delayed.value = (fetch it.request s).1.value) :
    ((waitFor it delayed).1 = .pending ∧
      Alongside fetch ((waitFor it delayed).2, (fetch it.request s).2) (it, s)) ∨
    ((waitFor it delayed).1 = .ready (PageIterator.pull fetch (it, s)).1 ∧
      (waitFor it delayed).2.inFlight = none ∧
      Alongside fetch ((waitFor it delayed).2, (fetch it.request s).2)
        (PageIterator.pull fetch (it, s)).2) := by
  rw [PageIterator.pull_of_live fetch s live, ← value]
  obtain ⟨polls, answer⟩ := delayed
  cases polls with
  | succ n => exact .inl ⟨rfl, .waiting it s ⟨n, answer⟩ live value⟩
  | zero => exact .inr ⟨rfl, rfl, .idle _ _ _ rfl⟩

/-- A poll either finds nothing and leaves the iterator alone, or is answered as a pull is. -/
theorem poll_cases (h : Alongside fetch x y) :
    ((pollNext fetch x).1 = .pending ∧ Alongside fetch (pollNext fetch x).2 y) ∨
    ((pollNext fetch x).1 = .ready (PageIterator.pull fetch y).1 ∧
      (pollNext fetch x).2.1.inFlight = none ∧
      Alongside fetch (pollNext fetch x).2 (PageIterator.pull fetch y).2) := by
  cases h with
  | waiting it s delayed live value =>
    rw [pollNext_of_inFlight]
    exact waitFor_cases live value
  | idle it it' s same =>
    obtain ⟨_, _, live, _⟩ := PageIterator.eq_of_begun_eq same
    cases hl : it.isLive with
    | true =>
      have request : it'.request = it.request := by
        rw [← it'.request_begun, same, it.request_begun]
      rw [pollNext_of_live fetch s (live.trans hl), request, ← waitFor_begun, same, waitFor_begun]
      exact waitFor_cases hl rfl
    | false =>
      rw [pollNext_of_not_live fetch s (live.trans hl), PageIterator.pull_of_not_live fetch s hl]
      refine .inr ⟨rfl, rfl, .idle _ _ _ ?_⟩
      rw [it'.begun_settled, same, it.begun_settled]

theorem simulates (fetch : Fetch σ Req E Page) :
    Simulates (pollNext (C := C) fetch) (PageIterator.pull fetch) (Alongside fetch) := by
  intro x y h
  rcases h.poll_cases with pending | ⟨ready, _, next⟩
  · exact .inl pending
  · exact .inr ⟨ready, next⟩

theorem polls (h : Alongside fetch x y) (n : Nat) :
    (steps (PageIterator.pull fetch) (answersIn (steps (pollNext fetch) n x).1).length y).1 =
      answersIn (steps (pollNext fetch) n x).1 ∧
    Alongside fetch (steps (pollNext fetch) n x).2
      (steps (PageIterator.pull fetch) (answersIn (steps (pollNext fetch) n x).1).length y).2 :=
  (simulates fetch).polls h n

/-- Polls leave the state that they fetch from as pulls do, of which there are as many as there are
answers, or one more while a fetch is in flight. -/
theorem exists_pulls (h : Alongside fetch x y) (n : Nat) :
    ∃ m, (answersIn (steps (pollNext fetch) n x).1).length ≤ m ∧
      (steps (pollNext fetch) n x).2.2 = (steps (PageIterator.pull fetch) m y).2.2 := by
  obtain ⟨_, along⟩ := h.polls n
  generalize (answersIn (steps (pollNext fetch) n x).1).length = m at along
  cases inFlight : (steps (pollNext fetch) n x).2.1.inFlight with
  | none => exact ⟨m, Nat.le_refl m, along.eq_of_idle inFlight⟩
  | some delayed => exact ⟨m + 1, Nat.le_succ m, along.eq_of_waiting inFlight⟩

theorem idle_of_getLast? (h : Alongside fetch x y) (idle : x.1.inFlight = none) (n : Nat)
    (answered : (steps (pollNext fetch) n x).1.getLast? ≠ some .pending) :
    (steps (pollNext fetch) n x).2.1.inFlight = none := by
  cases n with
  | zero => exact idle
  | succ n =>
    rw [steps_succ, List.getLast?_concat] at answered
    rcases (h.polls n).2.poll_cases with ⟨pending, _⟩ | ⟨_, idle, _⟩
    · exact absurd (congrArg some pending) answered
    · exact idle

end Alongside

theorem alongside_start (fetch : Fetch σ Req E Page) (initial : Req) (behavior : EndBehavior)
    (s : σ) : Alongside fetch (start initial behavior, s) (.start initial behavior, s) :=
  .idle (.start initial behavior) (.start initial behavior) s rfl

theorem polls_of_idle [Cursor C] [CursorResponse Page C] (fetch : Fetch σ Req E Page)
    (initial : Req) (behavior : EndBehavior) (s : σ) (n : Nat)
    (idle : (steps (pollNext fetch) n (start initial behavior, s)).2.1.inFlight = none) :
    let p := steps (pollNext fetch) n (start initial behavior, s)
    let r := steps (PageIterator.pull fetch) (answersIn p.1).length (.start initial behavior, s)
    answersIn p.1 = r.1 ∧ p.2.2 = r.2.2 ∧ p.2.1.cursor = r.2.1.cursor ∧
      p.2.1.failed = r.2.1.failed := by
  obtain ⟨same, along⟩ := (alongside_start fetch initial behavior s).polls n
  obtain ⟨_, cursor, failed⟩ := along.same_view
  exact ⟨same.symm, along.eq_of_idle idle, cursor, failed⟩

/-! ### Fetches that answer at once -/

variable [Cursor C] [CursorResponse Page C]

theorem waitFor_of_prompt (it : PageIterator Req C) {delayed : Delayed (Except E Page)}
    (prompt : delayed.polls = 0) :
    waitFor it delayed =
      (.ready (some delayed.value), ofIterator (it.record delayed.value) none) := by
  obtain ⟨polls, value⟩ := delayed
  obtain rfl : polls = 0 := prompt
  rfl

theorem pollNext_of_prompt (fetch : Fetch σ Req E Page)
    (prompt : ∀ req s, (fetch req s).1.polls = 0) (it : PageIterator Req C) (s : σ) :
    pollNext fetch (ofIterator it none, s) =
      (.ready (PageIterator.pull fetch (it, s)).1,
        ofIterator (PageIterator.pull fetch (it, s)).2.1 none,
        (PageIterator.pull fetch (it, s)).2.2) := by
  cases hl : it.isLive with
  | true =>
    rw [pollNext_of_live fetch s hl, waitFor_of_prompt it (prompt _ _),
      PageIterator.pull_of_live fetch s hl]
  | false =>
    rw [pollNext_of_not_live fetch s hl, PageIterator.pull_of_not_live fetch s hl]

/-- If no fetch is ever pending, a stream is an iterator. -/
theorem polls_of_prompt (fetch : Fetch σ Req E Page) (prompt : ∀ req s, (fetch req s).1.polls = 0)
    (it : PageIterator Req C) (s : σ) (n : Nat) :
    steps (pollNext fetch) n (ofIterator it none, s) =
      ((steps (PageIterator.pull fetch) n (it, s)).1.map .ready,
        ofIterator (steps (PageIterator.pull fetch) n (it, s)).2.1 none,
        (steps (PageIterator.pull fetch) n (it, s)).2.2) := by
  induction n with
  | zero => rfl
  | succ n ih =>
    rw [steps_succ, steps_succ, ih, pollNext_of_prompt fetch prompt, List.map_append]
    rfl

end Pagewise.PageStream
