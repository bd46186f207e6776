import Pagewise.Paging.Sequence

/-!
The blocking page iterator. Nothing is fetched before the first page is asked for. A failed fetch is
yielded in place of the page and ends the iteration; the token stays that of the page that failed.
-/
namespace Pagewise

structure PageIterator (Req C : Type) where
  initial : Req
  behavior : EndBehavior
  state : Option (CursorState C)
  failed : Bool

namespace PageIterator

variable {σ Req E Page C : Type} [Cursor C] [CursorRequest Req C] [CursorResponse Page C]

def start (initial : Req) (behavior : EndBehavior) : PageIterator Req C :=
  ⟨initial, behavior, none, false⟩

def pagesFetched (it : PageIterator Req C) : Nat := (it.state.map CursorState.pages).getD 0

def cursor (it : PageIterator Req C) : Option C :=
  match it.state with
  | some state => state.cursor
  | none => CursorRequest.cursor it.initial

def started (it : PageIterator Req C) : CursorState C :=
  it.state.getD (.start (CursorRequest.cursor it.initial))

/-- The next page, or the error in its place. -/
def next (fetch : Fetch σ Req E Page) (it : PageIterator Req C) (s : σ) :
    Option (Except E Page) × PageIterator Req C × σ :=
  if it.failed then (none, it, s)
  else
    let state := it.started
    if state.hasNext then
      let answer := fetch (state.request it.initial) s
      match answer.1.value with
      | .ok page =>
        (some (.ok page), { it with state := some (state.advance it.behavior page).2 }, answer.2)
      | .error e => (some (.error e), { it with state := some state, failed := true }, answer.2)
    else (none, { it with state := some state }, s)

theorem left_next (F : Fetcher σ Req E Page) (it : PageIterator Req C) (s : σ)
    (r : Except E Page) (h : (it.next F.fetch s).1 = some r) :
    (if (it.next F.fetch s).2.1.failed then 0 else F.left (it.next F.fetch s).2.2 + 1) <
      (if it.failed then 0 else F.left s + 1) := by
  unfold next at h ⊢
  split at h
  · simp at h
  · next hf =>
    simp only at h
    split at h
    · next hn =>
      simp only [hf, hn, if_true, Bool.false_eq_true, if_false]
      cases hv : (F.fetch (it.started.request it.initial) s).1.value with
      | error e => simp
      | ok page => simpa [hf] using F.left_fetch _ s page hv
    · simp at h

def pulled (F : Fetcher σ Req E Page) : Pulled (PageIterator Req C × σ) E Page where
  next s := s.1.next F.fetch s.2
  left s := if s.1.failed then 0 else F.left s.2 + 1
  left_next s r h := left_next F s.1 s.2 r h

end PageIterator

end Pagewise
