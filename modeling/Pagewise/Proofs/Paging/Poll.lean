import Pagewise.Paging.Stream
import Pagewise.Proofs.Paging.Pull

/-!
What one poll of the page stream does, in terms of the iterator that the stream would be without its
fetch in flight. A poll takes one poll of the fetch in flight, which it makes first if there is none
and the iterator is live; an answer is recorded as the iterator records it.
-/
namespace Pagewise

def answersIn {α : Type} (polls : List (Poll α)) : List α :=
  polls.filterMap fun
    | .pending => none
    | .ready a => some a

section

variable {α : Type} (polls more : List (Poll α))

@[simp] theorem answersIn_append :
    answersIn (polls ++ more) = answersIn polls ++ answersIn more :=
  List.filterMap_append

@[simp] theorem answersIn_pending : answersIn [(.pending : Poll α)] = [] := rfl

@[simp] theorem answersIn_ready (a : α) : answersIn [.ready a] = [a] := rfl

@[simp] theorem answersIn_map_ready (answers : List α) :
    answersIn (answers.map .ready) = answers := by
  rw [answersIn, List.filterMap_map]
  exact List.filterMap_some

end

namespace PageStream

variable {σ Req E Page C : Type}

def iterator (st : PageStream Req C E Page) : PageIterator Req C :=
  ⟨st.initial, st.behavior, st.state, st.failed⟩

/-- A stream that stands where an iterator does, with a fetch in flight or none. -/
def ofIterator (it : PageIterator Req C) (inFlight : Option (Delayed (Except E Page))) :
    PageStream Req C E Page :=
  ⟨it.initial, it.behavior, it.state, it.failed, inFlight⟩

theorem ofIterator_iterator (st : PageStream Req C E Page) :
    ofIterator st.iterator st.inFlight = st := rfl

@[simp] theorem iterator_ofIterator (it : PageIterator Req C)
    (inFlight : Option (Delayed (Except E Page))) : (ofIterator it inFlight).iterator = it := rfl

@[simp] theorem inFlight_ofIterator (it : PageIterator Req C)
    (inFlight : Option (Delayed (Except E Page))) :
    (ofIterator it inFlight).inFlight = inFlight := rfl

variable [CursorRequest Req C]

theorem isTerminated_iff (st : PageStream Req C E Page) :
    st.isTerminated = true ↔ st.inFlight = none ∧ st.iterator.isLive = false := by
  obtain ⟨initial, behavior, state, failed, inFlight⟩ := st
  cases state <;> cases failed <;> cases inFlight <;>
    simp [isTerminated, iterator, PageIterator.isLive, PageIterator.started, CursorState.start]

variable [Cursor C] [CursorResponse Page C]

def pollNext (fetch : Fetch σ Req E Page) (x : PageStream Req C E Page × σ) :
    Poll (Option (Except E Page)) × (PageStream Req C E Page × σ) :=
  x.1.poll fetch x.2

def waitFor (it : PageIterator Req C) (delayed : Delayed (Except E Page)) :
    Poll (Option (Except E Page)) × PageStream Req C E Page :=
  match delayed.polls with
  | 0 => (.ready (some delayed.value), ofIterator (it.record delayed.value) none)
  | n + 1 => (.pending, ofIterator it.begun (some ⟨n, delayed.value⟩))

theorem waitFor_begun (it : PageIterator Req C) (delayed : Delayed (Except E Page)) :
    waitFor it.begun delayed = waitFor it delayed := by
  rw [waitFor, PageIterator.record_begun, PageIterator.begun_begun, waitFor]

theorem await_ofIterator (it : PageIterator Req C) (delayed : Delayed (Except E Page))
    (inFlight : Option (Delayed (Except E Page))) :
    (ofIterator it.begun inFlight).await delayed = waitFor it delayed := by
  obtain ⟨polls, value⟩ := delayed
  cases polls with
  | succ n => rfl
  | zero => cases value <;> rfl

theorem pollNext_of_inFlight (fetch : Fetch σ Req E Page) (it : PageIterator Req C)
    (delayed : Delayed (Except E Page)) (s : σ) :
    pollNext fetch (ofIterator it.begun (some delayed), s) =
      ((waitFor it delayed).1, (waitFor it delayed).2, s) := by
  rw [← await_ofIterator it delayed (some delayed)]
  rfl

theorem pollNext_of_live (fetch : Fetch σ Req E Page) {it : PageIterator Req C} (s : σ)
    (h : it.isLive = true) :
    pollNext fetch (ofIterator it none, s) =
      ((waitFor it (fetch it.request s).1).1, (waitFor it (fetch it.request s).1).2,
        (fetch it.request s).2) := by
  obtain ⟨hf, hn⟩ : it.failed = false ∧ it.started.hasNext = true := by
    simpa [PageIterator.isLive] using h
  obtain ⟨initial, behavior, state, failed⟩ := it
  obtain rfl : failed = false := hf
  simp only [PageIterator.started] at hn
  rw [← await_ofIterator _ _ none]
  simp only [pollNext, poll, ofIterator, Bool.false_eq_true, if_false, hn, if_true]
  rfl

theorem pollNext_of_not_live (fetch : Fetch σ Req E Page) {it : PageIterator Req C} (s : σ)
    (h : it.isLive = false) :
    pollNext fetch ((ofIterator it none : PageStream Req C E Page), s) =
      (.ready none, ofIterator it.settled none, s) := by
  cases hf : it.failed with
  | true => simp [pollNext, poll, ofIterator, PageIterator.settled, hf]
  | false =>
    have hn : it.started.hasNext = false := by simpa [PageIterator.isLive, hf] using h
    rw [PageIterator.started] at hn
    simp [pollNext, poll, ofIterator, PageIterator.settled, PageIterator.begun,
      PageIterator.started, hf, hn]

end PageStream

end Pagewise
