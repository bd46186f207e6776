import Pagewise.Proofs.Paging.IteratorRun

/-!
Runs that are taken up again where they were broken off. Two runs with the same outcomes up to some
fetch agree up to it, and a run from the token of a fetch does what is left of the run that the token
was taken from.
-/
namespace Pagewise

namespace Outcomes

variable {Req E Page C : Type} [Cursor C] [CursorRequest Req C] [CursorResponse Page C]

/-! ### The same outcomes up to a fetch -/

section

variable {o a : Outcomes E Page} {initial : Req} {behavior : EndBehavior} {k : Nat}

omit [Cursor C] in
theorem token_congr (same : ∀ i < k, (a i).value = (o i).value) {j : Nat} (hj : j ≤ k) :
    a.token initial j = o.token initial j := by
  induction j with
  | zero => rfl
  | succ j ih => rw [token, token, ih (by omega), same j (by omega)]

theorem continues_congr (same : ∀ i < k, (a i).value = (o i).value) {j : Nat} (hj : j < k) :
    a.continues initial behavior j = o.continues initial behavior j := by
  rw [continues, continues, token_congr same (by omega), same j hj]

theorem reaches_congr (same : ∀ i < k, (a i).value = (o i).value) {j : Nat} (hj : j ≤ k) :
    a.reaches initial behavior j = o.reaches initial behavior j := by
  induction j with
  | zero => rfl
  | succ j ih => rw [reaches_succ, reaches_succ, ih (by omega), continues_congr same (by omega)]

theorem requests_congr (same : ∀ i < k, (a i).value = (o i).value) {n : Nat} (hn : n ≤ k) :
    a.requests initial behavior n = o.requests initial behavior n := by
  induction n with
  | zero => rfl
  | succ n ih =>
    rw [requests_succ, requests_succ, ih (by omega), reaches_congr same (by omega), request,
      request, token_congr same (by omega)]

theorem answers_congr (same : ∀ i < k, (a i).value = (o i).value) {n : Nat} (hn : n ≤ k) :
    a.answers initial behavior n = o.answers initial behavior n := by
  induction n with
  | zero => rfl
  | succ n ih =>
    rw [answers_succ, answers_succ, ih (by omega), reaches_congr same (by omega), same n (by omega)]

end

/-! ### The outcomes from a fetch on -/

def after (o : Outcomes E Page) (k : Nat) : Outcomes E Page := fun j => o (k + j)

structure Restarts (initial resumed : Req) (used : Option C) : Prop where
  cursor : CursorRequest.cursor resumed = used
  request : ∀ token : Option C,
    CursorRequest.withCursor resumed token = CursorRequest.withCursor initial token

variable {o : Outcomes E Page} {initial resumed : Req} {behavior : EndBehavior} {k : Nat}

omit [Cursor C] in
theorem token_after (h : Restarts initial resumed (o.token initial k)) (j : Nat) :
    (o.after k).token resumed j = o.token initial (k + j) := by
  induction j with
  | zero => exact h.cursor
  | succ j ih => rw [token, ih, ← Nat.add_assoc, token, after]

theorem reaches_after (h : Restarts initial resumed (o.token initial k))
    (reached : o.reaches initial behavior k = true) (j : Nat) :
    (o.after k).reaches resumed behavior j = o.reaches initial behavior (k + j) := by
  induction j with
  | zero => rw [Nat.add_zero, reached]; rfl
  | succ j ih =>
    rw [reaches_succ, ih, ← Nat.add_assoc, reaches_succ, continues, continues, token_after h, after]

theorem answers_after (h : Restarts initial resumed (o.token initial k))
    (reached : o.reaches initial behavior k = true) (n : Nat) :
    o.answers initial behavior (k + n) =
      o.answers initial behavior k ++ (o.after k).answers resumed behavior n := by
  induction n with
  | zero => rw [Nat.add_zero, answers, answers, List.range_zero, List.map_nil, List.append_nil]
  | succ n ih =>
    rw [← Nat.add_assoc, answers_succ, ih, answers_succ, reaches_after h reached, after,
      List.append_assoc]

theorem requests_after (h : Restarts initial resumed (o.token initial k))
    (reached : o.reaches initial behavior k = true) (n : Nat) :
    o.requests initial behavior (k + n) =
      o.requests initial behavior k ++ (o.after k).requests resumed behavior n := by
  induction n with
  | zero => rw [Nat.add_zero, requests, requests, List.range_zero]; exact (List.append_nil _).symm
  | succ n ih =>
    rw [← Nat.add_assoc, requests_succ, ih, requests_succ, reaches_after h reached,
      List.append_assoc, request, request, token_after h, h.request]

/-! ### Broken off by an error -/

theorem answers_of_error {e : E} (reached : o.reaches initial behavior k = true)
    (failed : (o k).value = .error e) (n : Nat) :
    o.answers initial behavior (k + 1 + n) =
        o.answers initial behavior k ++ some (.error e) :: List.replicate n none ∧
      o.requests initial behavior (k + 1 + n) =
        o.requests initial behavior k ++ [o.request initial k] := by
  have missed : o.reaches initial behavior (k + 1) = false := by
    rw [reaches_succ, continues, failed, goesOn, Bool.and_false]
  constructor
  · induction n with
    | zero => rw [Nat.add_zero, answers_succ, reached, if_pos rfl, failed]; rfl
    | succ n ih =>
      have beyond : o.reaches initial behavior (k + 1 + n) = false := by
        rw [← Bool.not_eq_true] at missed ⊢
        exact fun h => missed (reaches_of_le (by omega) h)
      rw [← Nat.add_assoc, answers_succ, ih, beyond, List.append_assoc, List.cons_append,
        List.replicate_succ']
      rfl
  · rw [requests_of_missed missed (by omega), requests_succ, reached, if_pos rfl]

end Outcomes

/-! ### Broken off and taken up again -/

abbrev Trace (Req E Page : Type) := List (Option (Except E Page)) × List Req

/-- The pages of a run that broke off and then the answers of another one are those of a third; so
are the requests, without the one that failed. -/
def Rejoins {Req E Page : Type} (broken resumed whole : Trace Req E Page) : Prop :=
  ((pagesIn broken.1).map fun page => some (.ok page)) ++ resumed.1 = whole.1 ∧
    broken.2.dropLast ++ resumed.2 = whole.2

theorem Rejoins.map {Req Req' E Page : Type} {broken resumed whole : Trace Req E Page}
    (h : Rejoins broken resumed whole) (f : Req → Req') :
    Rejoins (broken.1, broken.2.map f) (resumed.1, resumed.2.map f)
      (whole.1, whole.2.map f) := by
  refine ⟨h.1, ?_⟩
  simp only
  rw [← h.2, List.map_append, List.map_dropLast]

theorem pagesIn_of_error {E Page : Type} (e : E) (n : Nat) :
    pagesIn (some (.error e : Except E Page) :: List.replicate n none) = [] := by
  simp [pagesIn, Except.toOption]

namespace Outcomes

variable {Req E Page C : Type} [Cursor C] [CursorRequest Req C] [CursorResponse Page C]

theorem pagesIn_answers {o : Outcomes E Page} {initial : Req} {behavior : EndBehavior} {k : Nat}
    (reached : o.reaches initial behavior k = true) :
    ((pagesIn (o.answers initial behavior k)).map fun page => some (.ok page)) =
      o.answers initial behavior k := by
  induction k with
  | zero => rfl
  | succ k ih =>
    have before : o.reaches initial behavior k = true := reaches_of_le (Nat.le_succ k) reached
    obtain ⟨page, held⟩ := ok_of_reaches reached (Nat.lt_succ_self k)
    rw [answers_succ, before, if_pos rfl, held, pagesIn_append, List.map_append, ih before]
    rfl

theorem rejoins {o a : Outcomes E Page} {initial resumed : Req} {behavior : EndBehavior} {k : Nat}
    {e : E} (reached : o.reaches initial behavior k = true)
    (same : ∀ i < k, (a i).value = (o i).value) (failed : (a k).value = .error e)
    (h : Restarts initial resumed (o.token initial k)) (m n : Nat) :
    Rejoins (a.answers initial behavior (k + 1 + m), a.requests initial behavior (k + 1 + m))
      ((o.after k).answers resumed behavior n, (o.after k).requests resumed behavior n)
      (o.answers initial behavior (k + n), o.requests initial behavior (k + n)) := by
  obtain ⟨answers, requests⟩ :=
    answers_of_error ((reaches_congr same (Nat.le_refl k)).trans reached) failed m
  constructor
  · simp only
    rw [answers, answers_congr same (Nat.le_refl k), answers_after h reached, pagesIn_append,
      pagesIn_of_error, List.append_nil, pagesIn_answers reached]
  · simp only
    rw [requests, List.dropLast_concat, requests_congr same (Nat.le_refl k),
      requests_after h reached]

end Outcomes

end Pagewise
