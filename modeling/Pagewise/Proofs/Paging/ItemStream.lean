import Pagewise.Proofs.Paging.Items
import Pagewise.Proofs.Paging.Progress

/-!
The items of a page stream and of a page iterator. A call on the stream that finds a fetch pending
may have skipped pages already; the call on the iterator that goes along with it has not begun, but
would come to the same from where the stream is.
-/
namespace Pagewise

namespace Polled

variable {S E Page Item : Type} (q : Polled S E Page) (project : Page → Option (List Item))

def pollForItem (x : S × List Item) : Poll (Option (Except E Item)) × (S × List Item) :=
  q.pollItem project x.1 x.2

theorem pollForItem_cons (s : S) (item : Item) (items : List Item) :
    q.pollForItem project (s, item :: items) = (.ready (some (.ok item)), (s, items)) := by
  rw [pollForItem, pollItem]

variable {q}

theorem pollForItem_of_pending {s t : S} (h : q.poll s = (.pending, t)) :
    q.pollForItem project (s, []) = (.pending, (t, [])) := by
  rw [pollForItem, pollItem]
  split <;> simp_all

theorem pollForItem_of_none {s t : S} (h : q.poll s = (.ready none, t)) :
    q.pollForItem project (s, []) = (.ready none, (t, [])) := by
  rw [pollForItem, pollItem]
  split <;> simp_all

theorem pollForItem_of_error {s t : S} {e : E} (h : q.poll s = (.ready (some (.error e)), t)) :
    q.pollForItem project (s, []) = (.ready (some (.error e)), (t, [])) := by
  rw [pollForItem, pollItem]
  split <;> simp_all

theorem pollForItem_of_page {s t : S} {page : Page} (h : q.poll s = (.ready (some (.ok page)), t)) :
    q.pollForItem project (s, []) = q.pollForItem project (t, (project page).getD []) := by
  rw [pollForItem, pollItem, pollForItem]
  split <;> simp_all

theorem exists_polls_of_pollForItem (x : S × List Item) :
    ∃ m ≤ q.left x.1 + 1, (q.pollForItem project x).2.1 = (steps q.poll m x.1).2 := by
  obtain ⟨s, items⟩ := x
  induction hm : q.left s using Nat.strongRecOn generalizing s items with
  | ind m ih =>
    cases items with
    | cons item items => exact ⟨0, by omega, by rw [pollForItem_cons]; rfl⟩
    | nil =>
      rcases h : q.poll s with ⟨r, t⟩
      cases r with
      | pending => exact ⟨1, by omega, by rw [pollForItem_of_pending project h, steps, steps, h]⟩
      | ready r =>
        cases r with
        | none => exact ⟨1, by omega, by rw [pollForItem_of_none project h, steps, steps, h]⟩
        | some r =>
          cases r with
          | error e => exact ⟨1, by omega, by rw [pollForItem_of_error project h, steps, steps, h]⟩
          | ok page =>
            have less : q.left t < m := hm ▸ left_lt h
            obtain ⟨m', few, same⟩ := ih _ less t _ rfl
            refine ⟨m' + 1, by omega, ?_⟩
            rw [pollForItem_of_page project h, same, steps_succ_first, h]

end Polled

namespace PageStream

variable {σ Req E Page C Item : Type} [Cursor C] [CursorRequest Req C] [CursorResponse Page C]
  (F : Fetcher σ Req E Page) (project : Page → Option (List Item))

structure Level (x : (PageStream Req C E Page × σ) × List Item)
    (y : (PageIterator Req C × σ) × List Item) : Prop where
  along : Alongside F.fetch x.1 y.1
  idle : x.1.1.inFlight = none
  items : x.2 = y.2

/-- Items of a stream that come to what a call on the iterator comes to. The stream may have begun
already, and then it is alongside the iterator at some point within the call. -/
inductive Amid (x : (PageStream Req C E Page × σ) × List Item)
    (call : Option (Except E Item) × ((PageIterator Req C × σ) × List Item)) : Prop where
  | within (z : PageIterator Req C × σ) (along : Alongside F.fetch x.1 z)
    (idle : x.2 = [] ∨ x.1.1.inFlight = none)
    (comes : (PageIterator.pulled F).pullItem project (z, x.2) = call)

def Advances (x : (PageStream Req C E Page × σ) × List Item)
    (call : Option (Except E Item) × ((PageIterator Req C × σ) × List Item)) : Prop :=
  let r := (polled F).pollForItem project x
  (r.1 = .pending ∧ Amid F project r.2 call) ∨ (r.1 = .ready call.1 ∧ Level F r.2 call.2)

variable {F project}

theorem Level.amid {x : (PageStream Req C E Page × σ) × List Item}
    {y : (PageIterator Req C × σ) × List Item} (h : Level F x y) :
    Amid F project x ((PageIterator.pulled F).pullItem project y) :=
  .within y.1 h.along (.inr h.idle) (by rw [h.items])

theorem Alongside.amid {p : PageStream Req C E Page × σ} {z : PageIterator Req C × σ}
    (h : Alongside F.fetch p z) :
    Amid F project (p, []) ((PageIterator.pulled F).pullItem project (z, [])) :=
  .within z h (.inl rfl) rfl

theorem advances_or_answered {p : PageStream Req C E Page × σ} {z t : PageIterator Req C × σ}
    {r : Option (Except E Page)} (along : Alongside F.fetch p z)
    (pulled : (PageIterator.pulled F).next z = (r, t)) :
    Advances F project (p, []) ((PageIterator.pulled F).pullItem project (z, [])) ∨
      ∃ p', (polled F).poll p = (.ready r, p') ∧ p'.1.inFlight = none ∧
        Alongside F.fetch p' t := by
  rcases along.poll_cases with ⟨waits, next⟩ | ⟨answered, idle, next⟩
  · left
    have polled : (polled F).poll p = (.pending, (pollNext F.fetch p).2) := Prod.ext waits rfl
    rw [Advances, Polled.pollForItem_of_pending project polled]
    exact .inl ⟨rfl, next.amid⟩
  · right
    have same : PageIterator.pull F.fetch z = (r, t) := pulled
    rw [same] at answered next
    exact ⟨_, Prod.ext answered rfl, idle, next⟩

theorem advances (y : (PageIterator Req C × σ) × List Item) :
    ∀ p : PageStream Req C E Page × σ, Alongside F.fetch p y.1 →
      (y.2 = [] ∨ p.1.inFlight = none) →
      Advances F project (p, y.2) ((PageIterator.pulled F).pullItem project y) := by
  -- By the way the call comes about, for any stream that has got as far as the iterator.
  induction y using Pulled.pullItem_induction (q := PageIterator.pulled F) project with
  | item z item items =>
    intro p along idle
    rw [Advances, Polled.pollForItem_cons, Pulled.pullItem_cons]
    exact .inr ⟨rfl, along, idle.resolve_left (List.cons_ne_nil _ _), rfl⟩
  | none z t pulled =>
    intro p along _
    rcases advances_or_answered along pulled with waits | ⟨p', polled, idle, next⟩
    · exact waits
    · rw [Advances, Polled.pollForItem_of_none project polled,
        Pulled.pullItem_of_none project pulled]
      exact .inr ⟨rfl, next, idle, rfl⟩
  | error z t e pulled =>
    intro p along _
    rcases advances_or_answered along pulled with waits | ⟨p', polled, idle, next⟩
    · exact waits
    · rw [Advances, Polled.pollForItem_of_error project polled,
        Pulled.pullItem_of_error project pulled]
      exact .inr ⟨rfl, next, idle, rfl⟩
  | page z t page pulled ih =>
    intro p along _
    rcases advances_or_answered along pulled with waits | ⟨p', polled, idle, next⟩
    · exact waits
    · rw [Advances, Polled.pollForItem_of_page project polled,
        Pulled.pullItem_of_page project pulled]
      exact ih p' next (.inr idle)

theorem Amid.advances {x : (PageStream Req C E Page × σ) × List Item}
    {call : Option (Except E Item) × ((PageIterator Req C × σ) × List Item)}
    (h : Amid F project x call) : Advances F project x call := by
  obtain ⟨z, along, idle, rfl⟩ := h
  exact PageStream.advances (z, x.2) x.1 along idle

variable (F project) in
/-- Polls for items go along with calls on the iterator. -/
theorem simulates_items :
    Simulates ((polled F).pollForItem project) ((PageIterator.pulled F).pullItem project)
      fun x y => Amid F project x ((PageIterator.pulled F).pullItem project y) := by
  intro x y h
  rcases h.advances with waits | ⟨answered, level⟩
  · exact .inl waits
  · exact .inr ⟨answered, level.amid⟩

/-! ### Progress -/

theorem answers_of_pulled {z t : PageIterator Req C × σ} {r : Option (Except E Page)}
    (pulled : (PageIterator.pulled F).next z = (r, t))
    (goes_on : ∀ p p', (polled F).poll p = (.ready r, p') → Alongside F.fetch p' t →
      Answers ((polled F).pollForItem project) (p, []))
    {p : PageStream Req C E Page × σ} (along : Alongside F.fetch p z) :
    Answers ((polled F).pollForItem project) (p, []) := by
  have same : PageIterator.pull F.fetch z = (r, t) := pulled
  refine along.wait_induction (P := fun p => Answers _ (p, [])) ?_ ?_
  · intro p waits later
    have polled : (polled F).poll p = (.pending, (pollNext F.fetch p).2) := Prod.ext waits rfl
    have step := Polled.pollForItem_of_pending project polled
    exact answers_of_pending (congrArg Prod.fst step) (by rw [step]; exact later)
  · intro p answered _ next
    rw [same] at answered next
    exact goes_on p _ (Prod.ext answered rfl) next

theorem answers_items (y : (PageIterator Req C × σ) × List Item) :
    ∀ p : PageStream Req C E Page × σ, Alongside F.fetch p y.1 →
      Answers ((polled F).pollForItem project) (p, y.2) := by
  induction y using Pulled.pullItem_induction (q := PageIterator.pulled F) project with
  | item z item items =>
    intro p _
    exact answers_of_ready (by rw [Polled.pollForItem_cons])
  | none z t pulled =>
    intro p along
    refine answers_of_pulled pulled (fun p p' polled _ => ?_) along
    exact answers_of_ready (by rw [Polled.pollForItem_of_none project polled])
  | error z t e pulled =>
    intro p along
    refine answers_of_pulled pulled (fun p p' polled _ => ?_) along
    exact answers_of_ready (by rw [Polled.pollForItem_of_error project polled])
  | page z t page pulled ih =>
    intro p along
    refine answers_of_pulled pulled (fun p p' polled next => ?_) along
    exact answers_of_eq (Polled.pollForItem_of_page project polled) (ih p' next)

theorem Amid.answers {x : (PageStream Req C E Page × σ) × List Item}
    {call : Option (Except E Item) × ((PageIterator Req C × σ) × List Item)}
    (h : Amid F project x call) : Answers ((polled F).pollForItem project) x := by
  obtain ⟨z, along, _, _⟩ := h
  exact answers_items (z, x.2) x.1 along

variable (project) in
theorem Alongside.exists_answers_items {p : PageStream Req C E Page × σ}
    {z : PageIterator Req C × σ} (along : Alongside F.fetch p z) (c : Nat) :
    ∃ n, (answersIn (steps ((polled F).pollForItem project) n (p, [])).1).length = c := by
  have kept : ∀ x, (∃ call, Amid F project x call) →
      ∃ call, Amid F project ((polled F).pollForItem project x).2 call := by
    rintro x ⟨_, h⟩
    rcases h.advances with ⟨_, next⟩ | ⟨_, level⟩
    · exact ⟨_, next⟩
    · exact ⟨_, level.amid⟩
  obtain ⟨n, count, _⟩ := exists_polls kept (fun _ ⟨_, h⟩ => h.answers) ⟨_, along.amid⟩ c
  exact ⟨n, count⟩

end PageStream

end Pagewise
