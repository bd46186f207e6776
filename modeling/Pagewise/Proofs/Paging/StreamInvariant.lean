import Pagewise.Operation.Paging
import Pagewise.Proofs.Paging.StreamRun

/-!
What holds of a page stream between any two polls, whatever fetches answer and however long they
take: how many there have been, when one is in flight, and where the end is.
-/
namespace Pagewise

def PagedOperation.listItems : PagedOperation where
  name := "ListItems"
  inputToken := ⟨["NextToken"], by decide, by decide⟩
  outputToken := ⟨["NextToken"], by decide, by decide⟩
  items := none
  pageSize := none
  endBehavior := .outputTokenEmpty
  inputToken_top := rfl

namespace PageStream

variable {σ Req E Page C : Type} [CursorRequest Req C]

/-! ### Fetches -/

theorem Alongside.made {fetch : Fetch σ Req E Page} {x : PageStream Req C E Page × (σ × List Req)}
    {y : PageIterator Req C × (σ × List Req)} (h : Alongside fetch.recorded x y)
    (returned : y.2.2.length = y.1.pagesFetched + if y.1.failed then 1 else 0) :
    x.2.2.length = x.1.pagesFetched + (if x.1.inFlight.isSome then 1 else 0) +
      if x.1.failed then 1 else 0 := by
  obtain ⟨pages, _, failed⟩ := h.same_view
  rw [pages, failed]
  cases h with
  | idle it it' s same => simpa using returned
  | waiting it s delayed live value =>
    rw [PageIterator.failed_of_live live] at returned ⊢
    simp only [Fetch.recorded, List.length_append, List.length_singleton, inFlight_ofIterator,
      Option.isSome_some, if_true, Bool.false_eq_true, if_false] at returned ⊢
    omega

theorem Alongside.in_flight {fetch : Fetch σ Req E Page} {x : PageStream Req C E Page × σ}
    {y : PageIterator Req C × σ} (h : Alongside fetch x y) (flying : x.1.inFlight.isSome = true) :
    x.1.failed = false ∧ ∃ state, x.1.state = some state ∧ state.hasNext = true := by
  cases h with
  | idle => simp at flying
  | waiting it s delayed live value =>
    obtain ⟨alive, hasNext⟩ : it.failed = false ∧ it.started.hasNext = true := by
      simpa [PageIterator.isLive] using live
    exact ⟨alive, it.started, rfl, hasNext⟩

theorem Alongside.idle_of_failed {fetch : Fetch σ Req E Page} {x : PageStream Req C E Page × σ}
    {y : PageIterator Req C × σ} (h : Alongside fetch x y) (failed : x.1.failed = true) :
    x.1.inFlight = none := by
  cases flying : x.1.inFlight with
  | none => rfl
  | some delayed =>
    have alive := (h.in_flight (by rw [flying, Option.isSome_some])).1
    exact absurd (failed.symm.trans alive) (by decide)

variable [Cursor C] [CursorResponse Page C]

theorem pollNext_recorded (fetch : Fetch σ Req E Page)
    (x : PageStream Req C E Page × (σ × List Req)) :
    ∃ more, (pollNext fetch.recorded x).2.2.2 = x.2.2 ++ more ∧ more.length ≤ 1 := by
  obtain ⟨st, s, sent⟩ := x
  unfold pollNext poll
  split
  · exact ⟨[], by simp⟩
  · split
    · exact ⟨[], by simp⟩
    · simp only
      split
      · exact ⟨[_], rfl, Nat.le_refl 1⟩
      · exact ⟨[], by simp⟩

/-! ### The end -/

theorem waitFor_ne_ready_none (it : PageIterator Req C) (delayed : Delayed (Except E Page)) :
    (waitFor it delayed).1 ≠ .ready none := by
  obtain ⟨polls, value⟩ := delayed
  cases polls <;> simp [waitFor]

theorem steps_of_isTerminated (fetch : Fetch σ Req E Page) {st : PageStream Req C E Page} (s : σ)
    (h : st.isTerminated = true) (m : Nat) :
    ∃ it : PageIterator Req C, it.begun = st.iterator.begun ∧
      steps (pollNext fetch) m (st, s) =
        (List.replicate m (.ready none), ofIterator it none, s) := by
  obtain ⟨idle, dead⟩ := (isTerminated_iff st).1 h
  induction m with
  | zero =>
    refine ⟨st.iterator, rfl, ?_⟩
    rw [← idle, ofIterator_iterator]
    rfl
  | succ m ih =>
    obtain ⟨it, same, before⟩ := ih
    obtain ⟨_, _, live, _⟩ := PageIterator.eq_of_begun_eq same
    refine ⟨it.settled, by rw [it.begun_settled, same], ?_⟩
    rw [steps_succ, before, pollNext_of_not_live fetch s (live.trans dead), List.replicate_succ']

theorem Alongside.isTerminated_iff_next {fetch : Fetch σ Req E Page}
    {x : PageStream Req C E Page × σ} {y : PageIterator Req C × σ} (h : Alongside fetch x y) :
    x.1.isTerminated = true ↔ (pollNext fetch x).1 = .ready none := by
  rw [isTerminated_iff]
  cases h with
  | waiting it s delayed live value =>
    rw [pollNext_of_inFlight]
    simp [waitFor_ne_ready_none]
  | idle it it' s same =>
    cases hl : it'.isLive with
    | true =>
      rw [pollNext_of_live fetch s hl]
      simp [waitFor_ne_ready_none, hl]
    | false =>
      rw [pollNext_of_not_live fetch s hl]
      simp [hl]

/-! ### The invariant -/

/-- What holds of a stream and the requests made for it, between two polls. -/
structure Sound (fetch : Fetch σ Req E Page) (x : PageStream Req C E Page × (σ × List Req)) :
    Prop where
  made : x.2.2.length = x.1.pagesFetched + (if x.1.inFlight.isSome then 1 else 0) +
    if x.1.failed then 1 else 0
  one_more : ∃ more, (pollNext fetch.recorded x).2.2.2 = x.2.2 ++ more ∧ more.length ≤ 1
  in_flight : x.1.inFlight.isSome = true →
    x.1.failed = false ∧ ∃ state, x.1.state = some state ∧ state.hasNext = true
  terminated_iff : x.1.isTerminated = true ↔ (pollNext fetch.recorded x).1 = .ready none
  terminated : x.1.isTerminated = true → ∀ m : Nat,
    let later := steps (pollNext fetch.recorded) m x
    later.1 = List.replicate m (.ready none) ∧ later.2.2 = x.2 ∧
      later.2.1.isTerminated = true ∧ later.2.1.cursor = x.1.cursor ∧
      later.2.1.pagesFetched = x.1.pagesFetched ∧ later.2.1.failed = x.1.failed
  size_hint : ∀ m : Nat,
    let yielded := (answersIn (steps (pollNext fetch.recorded) m x).1).filterMap id
    x.1.sizeHint.1 ≤ yielded.length ∧ ∀ most ∈ x.1.sizeHint.2, yielded.length ≤ most

theorem sound_of_alongside {fetch : Fetch σ Req E Page}
    {x : PageStream Req C E Page × (σ × List Req)} {y : PageIterator Req C × (σ × List Req)}
    (h : Alongside fetch.recorded x y)
    (returned : y.2.2.length = y.1.pagesFetched + if y.1.failed then 1 else 0) : Sound fetch x where
  made := h.made returned
  one_more := pollNext_recorded fetch x
  in_flight := h.in_flight
  terminated_iff := h.isTerminated_iff_next
  terminated ended m := by
    obtain ⟨it, same, later⟩ := steps_of_isTerminated fetch.recorded x.2 ended m
    obtain ⟨_, _, live, failed, cursor, pages⟩ := PageIterator.eq_of_begun_eq same
    intro after
    have eq : after = (List.replicate m (.ready none), ofIterator it none, x.2) := later
    rw [eq]
    refine ⟨rfl, rfl, ?_, cursor, pages, failed⟩
    exact (isTerminated_iff _).2 ⟨rfl, live.trans ((isTerminated_iff _).1 ended).2⟩
  size_hint m := by
    intro yielded
    cases ended : x.1.isTerminated with
    | false => simp [sizeHint, ended]
    | true =>
      obtain ⟨it, _, later⟩ := steps_of_isTerminated fetch.recorded x.2 ended m
      have rest : (steps (pollNext fetch.recorded) m x).1 = List.replicate m (.ready none) :=
        congrArg Prod.fst later
      have nothing : yielded = [] := by simp [yielded, rest, answersIn]
      simp [sizeHint, ended, nothing]

/-- However often a stream is polled, the invariant holds as long as the count of pages has not
wrapped around; nothing is fetched before the first poll. -/
theorem polls_sound (fetch : Fetch σ Req E Page) (initial : Req) (behavior : EndBehavior) (s : σ)
    (n : Nat)
    (few : (pagesIn (answersIn (steps (pollNext fetch.recorded) n
      (start initial behavior, (s, []))).1)).length < UInt64.size) :
    Sound fetch (steps (pollNext fetch.recorded) n (start initial behavior, (s, []))).2 ∧
      (n = 0 →
        (steps (pollNext fetch.recorded) n (start initial behavior, (s, []))).2.2.2 = []) := by
  refine ⟨?_, fun unpolled => unpolled ▸ rfl⟩
  obtain ⟨same, along⟩ := (alongside_start fetch.recorded initial behavior (s, [])).polls n
  have returned := PageIterator.length_sent_pulls fetch initial behavior s
    (answersIn (steps (pollNext fetch.recorded) n (start initial behavior, (s, []))).1).length
  have tally := PageIterator.tally_pulls fetch.recorded initial behavior (s, [])
    (answersIn (steps (pollNext fetch.recorded) n (start initial behavior, (s, []))).1).length
  refine sound_of_alongside along ?_
  rw [returned, tally.pages, tally.errors, same, Nat.mod_eq_of_lt few]

theorem listItems_sound :
    let token : Document := .object (.cons "NextToken" nofun (.string "2") .nil)
    let o : Outcomes String DocumentPage := fun k =>
      if k = 0 then ⟨1, .ok ⟨.listItems, token⟩⟩ else ⟨2, .error "unavailable"⟩
    let p := steps (pollNext (Fetch.ofOutcomes o).recorded) 5
      (PagedOperation.listItems.paginate .emptyObject, ([], []))
    (pagesIn (answersIn p.1)).length < UInt64.size ∧ p.2.2.2.length = 2 ∧
      Sound (.ofOutcomes o) p.2 :=
  ⟨by decide, by decide, (polls_sound _ _ _ [] 5 (by decide)).1⟩

end PageStream

end Pagewise
