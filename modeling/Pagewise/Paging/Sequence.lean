import Pagewise.Paging.Fetcher

/-!
Sequences of fallible pages that are pulled one by one from a state. A pulled sequence answers at
once; a polled one may answer that nothing is there yet. Both run out: `left` bounds the answers to
come, and `wait` the polls until the next one. A polled sequence can be cut after a number of answers,
and both can be flattened into the items of their pages: the next page is asked for only when the items
of the one before are used up.
-/
namespace Pagewise

structure Pulled (S E Page : Type) where
  next : S → Option (Except E Page) × S
  left : S → Nat
  left_next : ∀ (s : S) (r : Except E Page), (next s).1 = some r → left (next s).2 < left s

structure Polled (S E Page : Type) where
  poll : S → Poll (Option (Except E Page)) × S
  left : S → Nat
  left_poll : ∀ (s : S) (r : Except E Page),
    (poll s).1 = .ready (some r) → left (poll s).2 < left s
  wait : S → Nat
  wait_poll : ∀ s : S,
    (poll s).1 = .pending → left (poll s).2 ≤ left s ∧ wait (poll s).2 < wait s

def Poll.goesOn {E A : Type} (answer : Poll (Option (Except E A))) : Prop :=
  answer = .pending ∨ ∃ a, answer = .ready (some (.ok a))

/-- Fallible values that are awaited one by one, until there is none or one has failed. -/
structure Awaited (X E A : Type) where
  poll : X → Poll (Option (Except E A)) × X
  left : X → Nat
  wait : X → Nat
  less : ∀ x : X, (poll x).1.goesOn → left (poll x).2 < left x ∨
    (left (poll x).2 = left x ∧ wait (poll x).2 < wait x)

namespace Awaited

variable {X E A : Type}

theorem less_of_poll {q : Awaited X E A} {x y : X} {answer : Poll (Option (Except E A))}
    (h : q.poll x = (answer, y)) (more : answer.goesOn) :
    Prod.Lex (· < ·) (· < ·) (q.left y, q.wait y) (q.left x, q.wait x) := by
  have less := q.less x (by rwa [h])
  rw [h] at less
  exact Prod.lex_def.2 less

/-- The values up to the end or the first error, that error, and the state at this point. -/
def untilError (q : Awaited X E A) (x : X) : (List A × Except E Unit) × X :=
  match h : q.poll x with
  | (.pending, y) =>
    have := less_of_poll h (.inl rfl)
    untilError q y
  | (.ready none, y) => (([], .ok ()), y)
  | (.ready (some (.error e)), y) => (([], .error e), y)
  | (.ready (some (.ok a)), y) =>
    have := less_of_poll h (.inr ⟨a, rfl⟩)
    let rest := untilError q y
    ((a :: rest.1.1, rest.1.2), rest.2)
termination_by (q.left x, q.wait x)
decreasing_by all_goals assumption

theorem untilError_of_pending {q : Awaited X E A} {x y : X} (h : q.poll x = (.pending, y)) :
    q.untilError x = q.untilError y := by
  rw [untilError]
  split <;> simp_all

theorem untilError_of_none {q : Awaited X E A} {x y : X} (h : q.poll x = (.ready none, y)) :
    q.untilError x = (([], .ok ()), y) := by
  rw [untilError]
  split <;> simp_all

theorem untilError_of_error {q : Awaited X E A} {x y : X} {e : E}
    (h : q.poll x = (.ready (some (.error e)), y)) : q.untilError x = (([], .error e), y) := by
  rw [untilError]
  split <;> simp_all

theorem untilError_of_ok {q : Awaited X E A} {x y : X} {a : A}
    (h : q.poll x = (.ready (some (.ok a)), y)) :
    q.untilError x =
      ((a :: (q.untilError y).1.1, (q.untilError y).1.2), (q.untilError y).2) := by
  rw [untilError]
  split <;> simp_all

end Awaited

namespace Pulled

variable {S E Page Item : Type}

theorem left_lt {q : Pulled S E Page} {s t : S} {r : Except E Page} (h : q.next s = (some r, t)) :
    q.left t < q.left s := by
  simpa [h] using q.left_next s r (by simp [h])

def drain (q : Pulled S E Page) (s : S) : List (Except E Page) × S :=
  match h : q.next s with
  | (none, t) => ([], t)
  | (some r, t) =>
    have := left_lt h
    let rest := drain q t
    (r :: rest.1, rest.2)
termination_by q.left s

theorem drain_of_none {q : Pulled S E Page} {s t : S} (h : q.next s = (none, t)) :
    q.drain s = ([], t) := by
  rw [drain]
  split
  · next heq => simp_all
  · next heq => simp_all

theorem drain_of_some {q : Pulled S E Page} {s t : S} {r : Except E Page}
    (h : q.next s = (some r, t)) : q.drain s = (r :: (q.drain t).1, (q.drain t).2) := by
  rw [drain]
  split
  · next heq => simp_all
  · next heq => simp_all

def nextItem (q : Pulled S E Page) (project : Page → Option (List Item)) (s : S) :
    List Item → Option (Except E Item) × (S × List Item)
  | item :: items => (some (.ok item), (s, items))
  | [] =>
    match h : q.next s with
    | (none, t) => (none, (t, []))
    | (some (.error e), t) => (some (.error e), (t, []))
    | (some (.ok page), t) =>
      have := left_lt h
      nextItem q project t ((project page).getD [])
termination_by q.left s

def drainItems (q : Pulled S E Page) (project : Page → Option (List Item)) (s : S) :
    List Item → List (Except E Item) × S
  | item :: items =>
    let rest := drainItems q project s items
    (.ok item :: rest.1, rest.2)
  | [] =>
    match h : q.next s with
    | (none, t) => ([], t)
    | (some (.error e), t) =>
      have := left_lt h
      let rest := drainItems q project t []
      (.error e :: rest.1, rest.2)
    | (some (.ok page), t) =>
      have := left_lt h
      drainItems q project t ((project page).getD [])
termination_by items => (q.left s, items.length)

end Pulled

namespace Polled

variable {S E Page Item : Type}

def limitAfter (limit : Option Nat) : Poll (Option (Except E Page)) → Option Nat
  | .pending => limit
  | .ready none => some 0
  | .ready (some _) => limit.map Nat.pred

/-- Stop after a number of answers, if one is given. -/
def limit (q : Polled S E Page) : Polled (S × Option Nat) E Page where
  poll x :=
    if x.2 = some 0 then (.ready none, x)
    else
      let r := q.poll x.1
      (r.1, (r.2, limitAfter x.2 r.1))
  left x := q.left x.1
  left_poll x r h := by
    split at h
    · simp at h
    · next more => simpa [more] using q.left_poll x.1 r h
  wait x := q.wait x.1
  wait_poll x h := by
    split at h
    · simp at h
    · next more => simpa [more] using q.wait_poll x.1 h

theorem poll_limit_zero (q : Polled S E Page) (s : S) :
    q.limit.poll (s, some 0) = (.ready none, (s, some 0)) := rfl

theorem poll_limit (q : Polled S E Page) {n : Option Nat} (more : n ≠ some 0) (s : S) :
    q.limit.poll (s, n) = ((q.poll s).1, ((q.poll s).2, limitAfter n (q.poll s).1)) :=
  if_neg more

theorem left_lt {q : Polled S E Page} {s t : S} {r : Except E Page}
    (h : q.poll s = (.ready (some r), t)) : q.left t < q.left s := by
  simpa [h] using q.left_poll s r (by simp [h])

/-- Poll for the next item, given those left of the current page. -/
def pollItem (q : Polled S E Page) (project : Page → Option (List Item)) (s : S) :
    List Item → Poll (Option (Except E Item)) × (S × List Item)
  | item :: items => (.ready (some (.ok item)), (s, items))
  | [] =>
    match h : q.poll s with
    | (.pending, t) => (.pending, (t, []))
    | (.ready none, t) => (.ready none, (t, []))
    | (.ready (some (.error e)), t) => (.ready (some (.error e)), (t, []))
    | (.ready (some (.ok page)), t) =>
      have := left_lt h
      pollItem q project t ((project page).getD [])
termination_by q.left s

theorem left_of_pending {q : Polled S E Page} {s t : S} (h : q.poll s = (.pending, t)) :
    q.left t ≤ q.left s ∧ q.wait t < q.wait s := by
  simpa [h] using q.wait_poll s (by simp [h])

def awaited (q : Polled S E Page) : Awaited S E Page where
  poll := q.poll
  left := q.left
  wait := q.wait
  less s h := by
    rcases h with h | ⟨page, h⟩
    · have := q.wait_poll s h
      omega
    · exact .inl (q.left_poll s _ h)

theorem less_pollItem (q : Polled S E Page) (project : Page → Option (List Item)) (s : S)
    (items : List Item) (h : (q.pollItem project s items).1.goesOn) :
    let x := (q.pollItem project s items).2
    q.left x.1 < q.left s ∨
      (q.left x.1 = q.left s ∧ x.2.length + q.wait x.1 < items.length + q.wait s) := by
  fun_induction pollItem q project s items with
  | case1 => simp
  | case2 s t hs =>
    have := left_of_pending hs
    simp only [List.length_nil]
    omega
  | case3 => simp [Poll.goesOn] at h
  | case4 => simp [Poll.goesOn] at h
  | case5 s page t hs _ ih =>
    have := left_lt hs
    have := ih h
    omega

def awaitedItems (q : Polled S E Page) (project : Page → Option (List Item)) :
    Awaited (S × List Item) E Item where
  poll x := q.pollItem project x.1 x.2
  left x := q.left x.1
  wait x := x.2.length + q.wait x.1
  less x h := less_pollItem q project x.1 x.2 h

end Polled

end Pagewise
