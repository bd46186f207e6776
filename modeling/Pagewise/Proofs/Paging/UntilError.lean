import Pagewise.Proofs.Paging.ItemStream

/-!
Sequences awaited up to the first error. Awaited item by item a sequence gives the items of what it
gives page by page, and ends alike. A page stream whose fetches answer at once gives the pages among
its first polls under a limit, and without a limit those of the polls that end it.
-/
namespace Pagewise

/-! ### Items and pages -/

theorem Awaited.untilError_congr {X E A : Type} {q : Awaited X E A} {x y : X}
    (same : q.poll x = q.poll y) : q.untilError x = q.untilError y := by
  rcases h : q.poll y with ⟨answer, z⟩
  have h' : q.poll x = (answer, z) := same.trans h
  match answer with
  | .pending => rw [untilError_of_pending h, untilError_of_pending h']
  | .ready none => rw [untilError_of_none h, untilError_of_none h']
  | .ready (some (.error e)) => rw [untilError_of_error h, untilError_of_error h']
  | .ready (some (.ok a)) => rw [untilError_of_ok h, untilError_of_ok h']

namespace Polled

variable {S E Page Item : Type} (q : Polled S E Page) (project : Page → Option (List Item))

theorem untilError_items_append (s : S) (items : List Item) :
    (q.awaitedItems project).untilError (s, items) =
      ((items ++ ((q.awaitedItems project).untilError (s, [])).1.1,
        ((q.awaitedItems project).untilError (s, [])).1.2),
      ((q.awaitedItems project).untilError (s, [])).2) := by
  induction items with
  | nil => rfl
  | cons item items ih =>
    rw [Awaited.untilError_of_ok (q.pollForItem_cons project s item items), ih]
    rfl

/-- The items of the pages before the first error, and that error. -/
theorem untilError_items (s : S) :
    (q.awaitedItems project).untilError (s, []) =
      (((q.awaited.untilError s).1.1.flatMap fun page => (project page).getD [],
        (q.awaited.untilError s).1.2), ((q.awaited.untilError s).2, [])) := by
  fun_induction Awaited.untilError q.awaited s with
  | case1 s t h _ ih =>
    rw [Awaited.untilError_of_pending (pollForItem_of_pending project h), ih]
  | case2 s t h =>
    rw [Awaited.untilError_of_none (pollForItem_of_none project h)]
    rfl
  | case3 s e t h =>
    rw [Awaited.untilError_of_error (pollForItem_of_error project h)]
    rfl
  | case4 s page t h _ rest ih =>
    rw [Awaited.untilError_congr (pollForItem_of_page project h), untilError_items_append, ih]
    rfl

end Polled

/-! ### Pulls of an iterator -/

variable {σ Req E Page C : Type} [Cursor C] [CursorRequest Req C] [CursorResponse Page C]

/-- What is given up to the first error is what pulls have given, and leaves what they leave. -/
structure Told (pulls : List (Option (Except E Page)) × (PageIterator Req C × σ))
    (given : List Page × Except E Unit) (left : σ) : Prop where
  values : given.1 = pagesIn pulls.1
  failed : ∀ e, given.2 = .error e ↔ some (.error e) ∈ pulls.1
  left : left = pulls.2.2

namespace PageIterator

theorem pulls_of_not_live (fetch : Fetch σ Req E Page) {it : PageIterator Req C}
    (dead : it.isLive = false) (s : σ) (n : Nat) :
    (steps (pull fetch) n (it, s)).1 = List.replicate n none ∧
      (steps (pull fetch) n (it, s)).2.1.isLive = false ∧
      (steps (pull fetch) n (it, s)).2.2 = s := by
  induction n generalizing it with
  | zero => exact ⟨rfl, dead, rfl⟩
  | succ n ih =>
    obtain ⟨_, _, settled, _⟩ := eq_of_begun_eq it.begun_settled
    obtain ⟨nothing, ended, left⟩ := ih (settled.trans dead)
    rw [steps_succ_first, pull_of_not_live fetch s dead, nothing]
    exact ⟨rfl, ended, left⟩

theorem ended_add {fetch : Fetch σ Req E Page} {y : PageIterator Req C × σ} {n : Nat}
    (ended : (steps (pull fetch) n y).2.1.isLive = false) (m : Nat) :
    (steps (pull fetch) (n + m) y).2.1.isLive = false := by
  rw [steps_add]
  exact (pulls_of_not_live fetch ended _ m).2.1

variable {fetch : Fetch σ Req E Page} {it : PageIterator Req C} {s : σ} {n : Nat}

theorem told_end (dead : it.isLive = false) :
    Told (steps (pull fetch) n (it, s)) ([], .ok ()) s := by
  obtain ⟨nothing, _, left⟩ := pulls_of_not_live fetch dead s n
  refine ⟨?_, fun e => ?_, left.symm⟩
  · rw [nothing]
    simp [pagesIn]
  · rw [nothing]
    simp

theorem told_error (live : it.isLive = true) {e : E} (value : (fetch it.request s).1.value = .error e) :
    Told (steps (pull fetch) (n + 1) (it, s)) ([], .error e) (fetch it.request s).2 := by
  have dead : (it.record (.error e : Except E Page)).isLive = false := by
    rw [isLive_record live]
    rfl
  obtain ⟨nothing, _, left⟩ := pulls_of_not_live fetch dead (fetch it.request s).2 n
  rw [steps_succ_first, pull_of_live fetch s live, value]
  refine ⟨?_, fun e' => ?_, left.symm⟩
  · rw [nothing]
    simp [pagesIn, Except.toOption]
  · rw [nothing]
    simp [eq_comm]

theorem told_page (live : it.isLive = true) {page : Page}
    (value : (fetch it.request s).1.value = .ok page) {given : List Page × Except E Unit} {left : σ}
    (later : Told (steps (pull fetch) n (it.record (.ok page : Except E Page), (fetch it.request s).2))
      given left) :
    Told (steps (pull fetch) (n + 1) (it, s)) (page :: given.1, given.2) left := by
  rw [steps_succ_first, pull_of_live fetch s live, value]
  refine ⟨congrArg (page :: ·) later.values, fun e => ?_, later.left⟩
  simpa using later.failed e

theorem pagesIn_pulls {fetch : Fetch σ Req E Page} {y : PageIterator Req C × σ} {last : Nat}
    (ended : (steps (pull fetch) last y).2.1.isLive = false) (n : Nat) :
    pagesIn (steps (pull fetch) n y).1 = (pagesIn (steps (pull fetch) last y).1).take n := by
  induction n generalizing y last with
  | zero => rfl
  | succ n ih =>
    obtain ⟨it, s⟩ := y
    cases live : it.isLive with
    | false => rw [← (told_end live).values, ← (told_end live).values, List.take_nil]
    | true =>
      cases last with
      | zero => exact absurd (live.symm.trans ended) (by decide)
      | succ last =>
        cases value : (fetch it.request s).1.value with
        | error e =>
          rw [← (told_error live value).values, ← (told_error live value).values, List.take_nil]
        | ok page =>
          rw [steps_succ_first, pull_of_live fetch s live, value] at ended
          rw [steps_succ_first, steps_succ_first, pull_of_live fetch s live, value]
          exact congrArg (page :: ·) (ih ended)

/-- As many pulls as a limit allows, or without one as many as end the iterator. -/
inductive Covers (fetch : Fetch σ Req E Page) (y : PageIterator Req C × σ) (n : Nat) :
    Option Nat → Prop
  | limit : Covers fetch y n (some n)
  | whole (ended : (steps (pull fetch) n y).2.1.isLive = false) : Covers fetch y n none

theorem Covers.exists_succ {limit : Option Nat} (h : Covers fetch (it, s) n limit)
    (more : limit ≠ some 0) (live : it.isLive = true) : ∃ m, n = m + 1 := by
  refine Nat.exists_eq_succ_of_ne_zero fun none_left => ?_
  subst none_left
  cases h with
  | limit => exact more rfl
  | whole ended => exact absurd (live.symm.trans ended) (by decide)

theorem Covers.next {limit : Option Nat} {y : PageIterator Req C × σ}
    (h : Covers fetch y (n + 1) limit) : Covers fetch (pull fetch y).2 n (limit.map Nat.pred) := by
  cases h with
  | limit => exact .limit
  | whole ended =>
    rw [steps_succ_first] at ended
    exact .whole ended

end PageIterator

/-! ### Polls of a stream -/

namespace PageStream

variable {F : Fetcher σ Req E Page}

/-- A limited stream gives what as many pulls do, and one without a limit what pulls to the end do. -/
theorem told_awaited {limit : Option Nat} {n : Nat} {x : PageStream Req C E Page × σ}
    {y : PageIterator Req C × σ} (along : Alongside F.fetch x y) (idle : x.1.inFlight = none)
    (covers : PageIterator.Covers F.fetch y n limit) :
    Told (steps (PageIterator.pull F.fetch) n y)
      ((polled F).limit.awaited.untilError (x, limit)).1
      ((polled F).limit.awaited.untilError (x, limit)).2.1.2 := by
  induction n using Nat.strongRecOn generalizing limit x y with
  | ind n ih =>
    by_cases spent : limit = some 0
    · subst spent
      cases covers
      rw [Awaited.untilError_of_none ((polled F).poll_limit_zero x)]
      exact ⟨rfl, by simp [steps], along.eq_of_idle idle⟩
    · have polls (x : PageStream Req C E Page × σ) : (polled F).limit.awaited.poll (x, limit) =
          ((pollNext F.fetch x).1, (pollNext F.fetch x).2,
            Polled.limitAfter limit (pollNext F.fetch x).1) :=
        (polled F).poll_limit spent x
      refine along.wait_induction (P := fun x => Told _
        ((polled F).limit.awaited.untilError (x, limit)).1
        ((polled F).limit.awaited.untilError (x, limit)).2.1.2) ?_ ?_
      · intro x waits later
        rw [Awaited.untilError_of_pending ((polls x).trans (by rw [waits]))]
        exact later
      · intro x answered idle next
        obtain ⟨it, s⟩ := y
        have there := next.eq_of_idle idle
        cases live : it.isLive with
        | false =>
          rw [PageIterator.pull_of_not_live _ s live] at answered there
          rw [Awaited.untilError_of_none ((polls x).trans (by rw [answered])), there]
          exact PageIterator.told_end live
        | true =>
          obtain ⟨m, rfl⟩ := covers.exists_succ spent live
          have covers := covers.next
          rw [PageIterator.pull_of_live _ s live] at answered there next covers
          cases value : (F.fetch it.request s).1.value with
          | error e =>
            rw [value] at answered
            rw [Awaited.untilError_of_error ((polls x).trans (by rw [answered])), there]
            exact PageIterator.told_error live value
          | ok page =>
            rw [value] at answered next covers
            rw [Awaited.untilError_of_ok ((polls x).trans (by rw [answered]))]
            exact PageIterator.told_page live value (ih m (Nat.lt_succ_self m) next idle covers)

end PageStream

end Pagewise
