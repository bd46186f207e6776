import Pagewise.Paging.Iterator
import Pagewise.Proofs.Paging.Outcomes
import Pagewise.Proofs.Steps

/-!
What one pull of the page iterator does. A live iterator fetches once, yields the answer and records
it; any other yields nothing and fetches nothing. Whether its state has been made cannot be seen.
-/
namespace Pagewise.PageIterator

variable {σ Req E Page C : Type} [CursorRequest Req C]

def isLive (it : PageIterator Req C) : Bool := !it.failed && it.started.hasNext

theorem failed_of_live {it : PageIterator Req C} (h : it.isLive = true) : it.failed = false := by
  rw [isLive, Bool.and_eq_true, Bool.not_eq_true'] at h
  exact h.1

def begun (it : PageIterator Req C) : PageIterator Req C := { it with state := some it.started }

def request (it : PageIterator Req C) : Req := it.started.request it.initial

/-! ### What a made state leaves as it was -/

theorem begun_begun (it : PageIterator Req C) : it.begun.begun = it.begun := rfl

@[simp] theorem request_begun (it : PageIterator Req C) : it.begun.request = it.request := rfl

@[simp] theorem failed_begun (it : PageIterator Req C) : it.begun.failed = it.failed := rfl

theorem cursor_started (it : PageIterator Req C) : it.started.cursor = it.cursor := by
  obtain ⟨initial, behavior, state, failed⟩ := it
  cases state <;> rfl

theorem pages_started (it : PageIterator Req C) : it.started.pages = it.pagesFetched := by
  obtain ⟨initial, behavior, state, failed⟩ := it
  cases state <;> rfl

@[simp] theorem cursor_begun (it : PageIterator Req C) : it.begun.cursor = it.cursor :=
  cursor_started it

@[simp] theorem pagesFetched_begun (it : PageIterator Req C) :
    it.begun.pagesFetched = it.pagesFetched :=
  pages_started it

theorem request_eq (it : PageIterator Req C) :
    it.request = CursorRequest.withCursor it.initial it.cursor := by
  rw [request, CursorState.request, cursor_started]

theorem eq_of_begun_eq {it it' : PageIterator Req C} (h : it'.begun = it.begun) :
    it'.initial = it.initial ∧ it'.behavior = it.behavior ∧ it'.isLive = it.isLive ∧
      it'.failed = it.failed ∧ it'.cursor = it.cursor ∧ it'.pagesFetched = it.pagesFetched := by
  refine ⟨(congrArg initial h :), (congrArg behavior h :), (congrArg isLive h :),
    (congrArg failed h :), ?_, ?_⟩
  · rw [← cursor_begun it', h, cursor_begun]
  · rw [← pagesFetched_begun it', h, pagesFetched_begun]

def settled (it : PageIterator Req C) : PageIterator Req C := if it.failed then it else it.begun

@[simp] theorem begun_settled (it : PageIterator Req C) : it.settled.begun = it.begun := by
  rw [settled]
  split <;> rfl

/-! ### One pull -/

variable [Cursor C] [CursorResponse Page C]

/-- What the answer to a fetch makes of the iterator. -/
def record (it : PageIterator Req C) : Except E Page → PageIterator Req C
  | .ok page => { it with state := some (it.started.advance it.behavior page).2 }
  | .error _ => { it.begun with failed := true }

def pull (fetch : Fetch σ Req E Page) (x : PageIterator Req C × σ) :
    Option (Except E Page) × (PageIterator Req C × σ) :=
  x.1.next fetch x.2

theorem pull_of_live (fetch : Fetch σ Req E Page) {it : PageIterator Req C} (s : σ)
    (h : it.isLive = true) :
    pull fetch (it, s) = (some (fetch it.request s).1.value,
      it.record (fetch it.request s).1.value, (fetch it.request s).2) := by
  obtain ⟨hf, hn⟩ : it.failed = false ∧ it.started.hasNext = true := by simpa [isLive] using h
  simp only [pull, next, hf, hn, Bool.false_eq_true, if_false, if_true]
  rw [request]
  cases (fetch (it.started.request it.initial) s).1.value with
  | ok page => simp [record, hf]
  | error e => simp [record, begun]

theorem pull_of_not_live (fetch : Fetch σ Req E Page) {it : PageIterator Req C} (s : σ)
    (h : it.isLive = false) :
    pull fetch (it, s) = (none, it.settled, s) := by
  cases hf : it.failed with
  | true => simp [pull, next, settled, hf]
  | false =>
    have hn : it.started.hasNext = false := by simpa [isLive, hf] using h
    simp [pull, next, settled, hf, hn, begun]

/-! ### What a recorded answer changes -/

@[simp] theorem record_begun (it : PageIterator Req C) (answer : Except E Page) :
    it.begun.record answer = it.record answer := by
  cases answer <;> rfl

@[simp] theorem initial_record (it : PageIterator Req C) (answer : Except E Page) :
    (it.record answer).initial = it.initial := by
  cases answer <;> rfl

@[simp] theorem behavior_record (it : PageIterator Req C) (answer : Except E Page) :
    (it.record answer).behavior = it.behavior := by
  cases answer <;> rfl

theorem failed_record (it : PageIterator Req C) (answer : Except E Page) :
    (it.record answer).failed =
      match answer with
      | .ok _ => it.failed
      | .error _ => true := by
  cases answer <;> rfl

theorem cursor_record (it : PageIterator Req C) (answer : Except E Page) :
    (it.record answer).cursor = tokenAfter it.cursor answer := by
  cases answer with
  | ok page => exact CursorState.cursor_advance _ _ _
  | error e => exact cursor_started it

theorem pagesFetched_record (it : PageIterator Req C) (answer : Except E Page) :
    (it.record answer).pagesFetched =
      match answer with
      | .ok _ => (it.pagesFetched + 1) % UInt64.size
      | .error _ => it.pagesFetched := by
  cases answer with
  | ok page =>
    rw [← pages_started it]
    exact CursorState.pages_advance _ _ _
  | error e => exact pages_started it

theorem isLive_record {it : PageIterator Req C} (h : it.isLive = true) (answer : Except E Page) :
    (it.record answer).isLive = goesOn it.behavior it.cursor answer := by
  obtain ⟨hf, hn⟩ : it.failed = false ∧ it.started.hasNext = true := by simpa [isLive] using h
  cases answer with
  | ok page =>
    have hasNext : (it.started.advance it.behavior page).2.hasNext =
        (it.started.verdict it.behavior page == .proceed) := by
      rw [CursorState.hasNext_advance, hn, Bool.true_and]
      cases it.started.verdict it.behavior page <;> rfl
    rw [CursorState.verdict, cursor_started] at hasNext
    simpa [isLive, record, goesOn, hf, started] using hasNext
  | error e => simp [isLive, record, goesOn]

end Pagewise.PageIterator
