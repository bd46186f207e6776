import Pagewise.Paging.Sequence

/-!
The polled page stream. At most one fetch is in flight; it survives polls that find it pending, and a
poll that finds it done records the page as the iterator does. Nothing is fetched before the first
poll.
-/
namespace Pagewise

structure PageStream (Req C E Page : Type) where
  initial : Req
  behavior : EndBehavior
  state : Option (CursorState C)
  failed : Bool
  inFlight : Option (Delayed (Except E Page))

namespace PageStream

variable {σ Req E Page C : Type} [Cursor C] [CursorRequest Req C] [CursorResponse Page C]

def start (initial : Req) (behavior : EndBehavior) : PageStream Req C E Page :=
  ⟨initial, behavior, none, false, none⟩

def pagesFetched (st : PageStream Req C E Page) : Nat := (st.state.map CursorState.pages).getD 0

def cursor (st : PageStream Req C E Page) : Option C :=
  match st.state with
  | some state => state.cursor
  | none => CursorRequest.cursor st.initial

/-- No poll will answer with a page or an error any more. -/
def isTerminated (st : PageStream Req C E Page) : Bool :=
  st.inFlight.isNone && (st.failed || st.state.any fun state => !state.hasNext)

def sizeHint (st : PageStream Req C E Page) : Nat × Option Nat :=
  if st.isTerminated then (0, some 0) else (0, none)

/-- Wait for a fetch in flight: one poll of it, and what its answer does to the stream. -/
def await (delayed : Delayed (Except E Page)) (st : PageStream Req C E Page) :
    Poll (Option (Except E Page)) × PageStream Req C E Page :=
  match delayed.poll with
  | (.pending, rest) => (.pending, { st with inFlight := rest })
  | (.ready answer, _) =>
    match st.state, answer with
    | none, _ => (.ready none, { st with inFlight := none })
    | some state, .ok page =>
      (.ready (some (.ok page)),
        { st with state := some (state.advance st.behavior page).2, inFlight := none })
    | some _, .error e =>
      (.ready (some (.error e)), { st with failed := true, inFlight := none })

def poll (fetch : Fetch σ Req E Page) (st : PageStream Req C E Page) (s : σ) :
    Poll (Option (Except E Page)) × PageStream Req C E Page × σ :=
  match st.inFlight with
  | some delayed =>
    let r := st.await delayed
    (r.1, r.2, s)
  | none =>
    if st.failed then (.ready none, st, s)
    else
      let state := st.state.getD (.start (CursorRequest.cursor st.initial))
      let st := { st with state := some state }
      if state.hasNext then
        let answer := fetch (state.request st.initial) s
        let r := st.await answer.1
        (r.1, r.2, answer.2)
      else (.ready none, st, s)

/-! ### Bounds on the polls to come -/

def leftAfter (F : Fetcher σ Req E Page) (failed : Bool) (s : σ) : Nat :=
  if failed then 0 else F.left s + 1

/-- A fetch in flight counts as one answer, after which there are more if it is a page. -/
def left (F : Fetcher σ Req E Page) (st : PageStream Req C E Page) (s : σ) : Nat :=
  match st.inFlight with
  | some delayed => leftAfter F (st.failed || !delayed.value.isOk) s + 1
  | none => leftAfter F st.failed s

def request (st : PageStream Req C E Page) : Req :=
  (st.state.getD (.start (CursorRequest.cursor st.initial))).request st.initial

def flight (fetch : Fetch σ Req E Page) (st : PageStream Req C E Page) (s : σ) :
    Delayed (Except E Page) × σ :=
  match st.inFlight with
  | some delayed => (delayed, s)
  | none => fetch st.request s

def wait (fetch : Fetch σ Req E Page) (st : PageStream Req C E Page) (s : σ) : Nat :=
  (flight fetch st s).1.polls

omit [Cursor C] [CursorResponse Page C] [CursorRequest Req C] in
theorem leftAfter_fetch (F : Fetcher σ Req E Page) (req : Req) (s : σ) :
    leftAfter F (!(F.fetch req s).1.value.isOk) (F.fetch req s).2 < leftAfter F false s := by
  have less := F.left_fetch req s
  cases value : (F.fetch req s).1.value with
  | error e => simp [leftAfter, Except.isOk, Except.toBool]
  | ok page => simpa [leftAfter, Except.isOk, Except.toBool] using less page value

omit [CursorRequest Req C] in
theorem left_await (F : Fetcher σ Req E Page) {delayed : Delayed (Except E Page)}
    {st : PageStream Req C E Page} {r : Except E Page}
    (h : (st.await delayed).1 = .ready (some r)) (s : σ) :
    left F (st.await delayed).2 s = leftAfter F (st.failed || !delayed.value.isOk) s := by
  obtain ⟨polls, value⟩ := delayed
  obtain ⟨initial, behavior, state, failed, inFlight⟩ := st
  cases polls with
  | succ n => simp [await, Delayed.poll] at h
  | zero =>
    cases state with
    | none => simp [await, Delayed.poll] at h
    | some state =>
      cases value <;> simp [await, Delayed.poll, left, Except.isOk, Except.toBool]

theorem left_poll (F : Fetcher σ Req E Page) (st : PageStream Req C E Page) (s : σ)
    (r : Except E Page) (h : (st.poll F.fetch s).1 = .ready (some r)) :
    left F (st.poll F.fetch s).2.1 (st.poll F.fetch s).2.2 < left F st s := by
  unfold poll at h ⊢
  split at h
  · next delayed flying =>
    rw [left_await F h s, left, flying]
    exact Nat.lt_succ_self _
  · next idle =>
    split at h
    · simp at h
    · next sound =>
      simp only at h
      split at h
      · next more =>
        rw [if_neg sound, if_pos more]
        simp only
        rw [left_await F h, left, idle]
        simpa [sound] using leftAfter_fetch F _ s
      · simp at h

omit [CursorRequest Req C] in
theorem inFlight_await {delayed : Delayed (Except E Page)} {st : PageStream Req C E Page}
    (h : (st.await delayed).1 = .pending) :
    ∃ rest, (st.await delayed).2 = { st with inFlight := some rest } ∧
      rest.polls < delayed.polls ∧ rest.value = delayed.value := by
  obtain ⟨polls, value⟩ := delayed
  cases polls with
  | zero => cases hs : st.state <;> cases value <;> simp [await, Delayed.poll, hs] at h
  | succ n => exact ⟨⟨n, value⟩, rfl, Nat.lt_succ_self n, rfl⟩

theorem inFlight_poll {fetch : Fetch σ Req E Page} {st : PageStream Req C E Page} {s : σ}
    (h : (st.poll fetch s).1 = .pending) :
    ∃ rest, (st.poll fetch s).2.1.inFlight = some rest ∧
      rest.polls < (flight fetch st s).1.polls ∧ rest.value = (flight fetch st s).1.value ∧
      (st.poll fetch s).2.1.failed = st.failed ∧ (st.poll fetch s).2.2 = (flight fetch st s).2 ∧
      (st.inFlight = none → st.failed = false) := by
  unfold poll at h ⊢
  split at h
  · next delayed flying =>
    obtain ⟨rest, awaited, fewer, same⟩ := inFlight_await h
    rw [flight, flying]
    exact ⟨rest, (congrArg inFlight awaited :), fewer, same, (congrArg failed awaited :), rfl,
      nofun⟩
  · next idle =>
    split at h
    · simp at h
    · next sound =>
      simp only at h
      split at h
      · next more =>
        obtain ⟨rest, awaited, fewer, same⟩ := inFlight_await h
        rw [if_neg sound, if_pos more]
        have made : flight fetch st s = fetch st.request s := by rw [flight, idle]
        rw [made]
        exact ⟨rest, (congrArg inFlight awaited :), fewer, same, (congrArg failed awaited :), rfl,
          fun _ => Bool.eq_false_iff.2 sound⟩
      · simp at h

theorem wait_poll {fetch : Fetch σ Req E Page} {st : PageStream Req C E Page} {s : σ}
    (h : (st.poll fetch s).1 = .pending) :
    wait fetch (st.poll fetch s).2.1 (st.poll fetch s).2.2 < wait fetch st s := by
  obtain ⟨rest, flying, fewer, _⟩ := inFlight_poll h
  rw [wait, flight, flying]
  exact fewer

theorem left_poll_of_pending (F : Fetcher σ Req E Page) {st : PageStream Req C E Page} {s : σ}
    (h : (st.poll F.fetch s).1 = .pending) :
    left F (st.poll F.fetch s).2.1 (st.poll F.fetch s).2.2 ≤ left F st s := by
  obtain ⟨rest, flying, _, same, failed, later, sound⟩ := inFlight_poll h
  rw [left, flying]
  simp only [same, failed, later]
  cases here : st.inFlight with
  | some delayed => simp [left, flight, here]
  | none =>
    rw [left, flight, here, sound here]
    exact leftAfter_fetch F _ s

def polled (F : Fetcher σ Req E Page) : Polled (PageStream Req C E Page × σ) E Page where
  poll s := s.1.poll F.fetch s.2
  left s := left F s.1 s.2
  left_poll s r h := left_poll F s.1 s.2 r h
  wait s := wait F.fetch s.1 s.2
  wait_poll _ h := ⟨left_poll_of_pending F h, wait_poll h⟩

end PageStream

end Pagewise
