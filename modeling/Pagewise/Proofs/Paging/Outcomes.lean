import Pagewise.Paging.Fetcher
import Pagewise.Cursor.EndBehavior

/-!
What the fetches of a run come to, by position, and what follows for the run: the token that each
fetch carries, whether the run goes on after it, and whether it is reached at all. Nothing here
looks at an iterator or a stream.
-/
namespace Pagewise

/-- What fetch `k` of a run comes to, and how many polls find it pending. -/
abbrev Outcomes (E Page : Type) := Nat → Delayed (Except E Page)

namespace Fetch

variable {σ Req E Page : Type}

def recorded (fetch : Fetch σ Req E Page) : Fetch (σ × List Req) Req E Page := fun req s =>
  ((fetch req s.1).1, ((fetch req s.1).2, s.2 ++ [req]))

def ofOutcomes (o : Outcomes E Page) : Fetch (List Req) Req E Page := fun req sent =>
  (o sent.length, sent ++ [req])

end Fetch

def Fetcher.recorded {σ Req E Page : Type} (F : Fetcher σ Req E Page) :
    Fetcher (σ × List Req) Req E Page where
  fetch := F.fetch.recorded
  left s := F.left s.1
  left_fetch req s page h := F.left_fetch req s.1 page h

section

variable {E Page C : Type} [CursorResponse Page C]

def tokenAfter (used : Option C) : Except E Page → Option C
  | .ok page => CursorResponse.nextCursor page
  | .error _ => used

def goesOn [Cursor C] (behavior : EndBehavior) (used : Option C) : Except E Page → Bool
  | .ok page =>
    behavior.decide used (CursorResponse.nextCursor page) (CursorResponse.memberFlag page) ==
      .proceed
  | .error _ => false

end

namespace Outcomes

variable {Req E Page C : Type} [Cursor C] [CursorRequest Req C] [CursorResponse Page C]

section

variable (o : Outcomes E Page) (initial : Req)

/-- The token of fetch `k`: first that of the caller, then that of the page before. -/
def token : Nat → Option C
  | 0 => CursorRequest.cursor initial
  | k + 1 => tokenAfter (token k) (o k).value

def request (k : Nat) : Req := CursorRequest.withCursor initial (o.token initial k)

def continues (behavior : EndBehavior) (k : Nat) : Bool :=
  goesOn behavior (o.token initial k) (o k).value

/-- No fetch before `k` ends the run. -/
def reaches (behavior : EndBehavior) (k : Nat) : Bool :=
  (List.range k).all (o.continues initial behavior)

/-- What `n` demands are answered with: the outcomes of the fetches reached, then nothing. -/
def answers (behavior : EndBehavior) (n : Nat) : List (Option (Except E Page)) :=
  (List.range n).map fun k =>
    if o.reaches initial behavior k then some (o k).value else none

def requests (behavior : EndBehavior) (n : Nat) : List Req :=
  ((List.range n).filter (o.reaches initial behavior)).map (o.request initial)

end

variable {o : Outcomes E Page} {initial : Req} {behavior : EndBehavior}

theorem reaches_succ (k : Nat) :
    o.reaches initial behavior (k + 1) =
      (o.reaches initial behavior k && o.continues initial behavior k) := by
  simp [reaches, List.range_succ, List.all_append]

theorem reaches_of_le {j k : Nat} (hjk : j ≤ k) (h : o.reaches initial behavior k = true) :
    o.reaches initial behavior j = true := by
  rw [reaches, List.all_eq_true] at h ⊢
  intro i hi
  have := List.mem_range.1 hi
  exact h i (List.mem_range.2 (by omega))

theorem ok_of_reaches {j k : Nat} (h : o.reaches initial behavior k = true) (hjk : j < k) :
    ∃ page, (o j).value = .ok page := by
  have next : o.reaches initial behavior (j + 1) = true := reaches_of_le hjk h
  rw [reaches_succ, Bool.and_eq_true, continues] at next
  cases held : (o j).value with
  | error e =>
    rw [held, goesOn] at next
    exact absurd next.2 (by decide)
  | ok page => exact ⟨page, rfl⟩

theorem filter_reaches {k : Nat} (h : o.reaches initial behavior k = true) :
    (List.range k).filter (o.reaches initial behavior) = List.range k := by
  rw [List.filter_eq_self]
  intro j hj
  exact reaches_of_le (Nat.le_of_lt (List.mem_range.1 hj)) h

theorem answers_succ (n : Nat) :
    o.answers initial behavior (n + 1) = o.answers initial behavior n ++
      [if o.reaches initial behavior n then some (o n).value else none] := by
  simp [answers, List.range_succ]

theorem requests_succ (n : Nat) :
    o.requests initial behavior (n + 1) = o.requests initial behavior n ++
      if o.reaches initial behavior n then [o.request initial n] else [] := by
  rw [requests, List.range_succ, List.filter_append, List.map_append, requests]
  cases h : o.reaches initial behavior n <;> simp [h]

theorem requests_of_missed {m n : Nat} (h : o.reaches initial behavior m = false) (hmn : m ≤ n) :
    o.requests initial behavior n = o.requests initial behavior m := by
  induction hmn with
  | refl => rfl
  | @step n hmn ih =>
    have missed : o.reaches initial behavior n = false := by
      rw [← Bool.not_eq_true] at h ⊢
      exact fun reached => h (reaches_of_le hmn reached)
    rw [requests_succ, missed, ih]
    simp

theorem length_requests {k : Nat} (h : o.reaches initial behavior k = true) :
    (o.requests initial behavior k).length = k := by
  rw [requests, filter_reaches h, List.length_map, List.length_range]

theorem getElem?_requests {n k : Nat} {req : Req}
    (h : (o.requests initial behavior n)[k]? = some req) :
    o.reaches initial behavior k = true ∧ req = o.request initial k := by
  induction n with
  | zero => simp [requests] at h
  | succ n ih =>
    rw [requests_succ] at h
    cases reached : o.reaches initial behavior n with
    | false =>
      rw [reached, if_neg (by decide), List.append_nil] at h
      exact ih h
    | true =>
      rw [reached, if_pos rfl] at h
      have count := length_requests reached
      rcases Nat.lt_trichotomy k n with before | rfl | beyond
      · rw [List.getElem?_append_left (by omega)] at h
        exact ih h
      · rw [List.getElem?_append_right (by omega), count, Nat.sub_self] at h
        exact ⟨reached, (Option.some.inj h).symm⟩
      · rw [List.getElem?_eq_none (by simp [count]; omega)] at h
        cases h

theorem length_requests_mono {m n : Nat} (hmn : m ≤ n) :
    (o.requests initial behavior m).length ≤ (o.requests initial behavior n).length := by
  induction hmn with
  | refl => exact Nat.le_refl _
  | step _ ih =>
    rw [requests_succ, List.length_append]
    omega

theorem lt_length_requests_iff {n k : Nat} :
    k < (o.requests initial behavior n).length ↔ k < n ∧ o.reaches initial behavior k = true := by
  constructor
  · intro h
    have few : (o.requests initial behavior n).length ≤ n := by
      have filtered := List.length_filter_le (o.reaches initial behavior) (List.range n)
      rwa [List.length_range, ← List.length_map (f := o.request initial)] at filtered
    exact ⟨by omega, (getElem?_requests (List.getElem?_eq_getElem h)).1⟩
  · rintro ⟨hk, reached⟩
    have count : (o.requests initial behavior (k + 1)).length = k + 1 := by
      rw [requests_succ, reached, if_pos rfl, List.length_append, length_requests reached,
        List.length_singleton]
    have more : (o.requests initial behavior (k + 1)).length ≤
        (o.requests initial behavior n).length := length_requests_mono hk
    omega

end Outcomes

end Pagewise
