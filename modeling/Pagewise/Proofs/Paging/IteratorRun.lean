import Pagewise.Paging.Run
import Pagewise.Proofs.Paging.Pull

/-!
Whole runs of the page iterator. Pulled any number of times it yields, asks for and counts what the
outcomes of its fetches say by position, and pulled to the end it is the run as a recursion.
-/
namespace Pagewise

section

variable {E Page : Type}

def pagesIn (results : List (Option (Except E Page))) : List Page :=
  results.filterMap fun r => r.bind Except.toOption

def errorsIn (results : List (Option (Except E Page))) : List E :=
  results.filterMap fun
    | some (.error e) => some e
    | _ => none

variable (results more : List (Option (Except E Page)))

@[simp] theorem pagesIn_append : pagesIn (results ++ more) = pagesIn results ++ pagesIn more :=
  List.filterMap_append

@[simp] theorem errorsIn_append : errorsIn (results ++ more) = errorsIn results ++ errorsIn more :=
  List.filterMap_append

@[simp] theorem pagesIn_ok (page : Page) : pagesIn [some (.ok page : Except E Page)] = [page] := rfl

@[simp] theorem pagesIn_error (e : E) : pagesIn [some (.error e : Except E Page)] = [] := rfl

@[simp] theorem pagesIn_none : pagesIn [(none : Option (Except E Page))] = [] := rfl

@[simp] theorem errorsIn_ok (page : Page) : errorsIn [some (.ok page : Except E Page)] = [] := rfl

@[simp] theorem errorsIn_error (e : E) : errorsIn [some (.error e : Except E Page)] = [e] := rfl

@[simp] theorem errorsIn_none : errorsIn [(none : Option (Except E Page))] = [] := rfl

theorem mem_errorsIn {e : E} : e ∈ errorsIn results ↔ some (.error e) ∈ results := by
  rw [errorsIn, List.mem_filterMap]
  constructor
  · rintro ⟨r, hr, he⟩
    split at he <;> simp_all
  · exact fun h => ⟨_, h, rfl⟩

end

namespace PageIterator

structure Tally {Req E Page C : Type} (results : List (Option (Except E Page)))
    (it : PageIterator Req C) : Prop where
  pages : it.pagesFetched = (pagesIn results).length % UInt64.size
  errors : (errorsIn results).length = if it.failed then 1 else 0

theorem Tally.failed_iff {Req E Page C : Type} {results : List (Option (Except E Page))}
    {it : PageIterator Req C} (h : Tally results it) :
    it.failed = true ↔ ∃ e, some (.error e) ∈ results := by
  simp only [← mem_errorsIn, ← List.length_pos_iff_exists_mem, h.errors]
  cases it.failed <;> simp

variable {σ Req E Page C : Type} [Cursor C] [CursorRequest Req C] [CursorResponse Page C]

/-- What holds at the start of a run, and is kept by a pull that fetches and by one that does not,
holds after any number of pulls. -/
theorem pulls_induction (fetch : Fetch σ Req E Page) {initial : Req} {behavior : EndBehavior}
    {s : σ} {P : Nat → List (Option (Except E Page)) → PageIterator Req C → σ → Prop}
    (first : P 0 [] (start initial behavior) s)
    (fetched : ∀ n results it s, P n results it s → it.isLive = true →
      P (n + 1) (results ++ [some (fetch it.request s).1.value])
        (it.record (fetch it.request s).1.value) (fetch it.request s).2)
    (ended : ∀ n results it s, P n results it s → it.isLive = false →
      P (n + 1) (results ++ [none]) it.settled s)
    (n : Nat) :
    P n (steps (pull fetch) n (start initial behavior, s)).1
      (steps (pull fetch) n (start initial behavior, s)).2.1
      (steps (pull fetch) n (start initial behavior, s)).2.2 := by
  induction n with
  | zero => exact first
  | succ n ih =>
    rw [steps_succ]
    revert ih
    generalize steps (pull fetch) n (start initial behavior, s) = x
    obtain ⟨results, it, s⟩ := x
    intro ih
    cases hl : it.isLive with
    | true =>
      rw [pull_of_live fetch s hl]
      exact fetched n results it s ih hl
    | false =>
      rw [pull_of_not_live fetch s hl]
      exact ended n results it s ih hl

/-! ### Counts -/

theorem tally_pulls (fetch : Fetch σ Req E Page) (initial : Req) (behavior : EndBehavior)
    (s : σ) (n : Nat) :
    Tally (steps (pull fetch) n (start initial behavior, s)).1
      (steps (pull fetch) n (start initial behavior, s)).2.1 := by
  refine pulls_induction (P := fun _ results it _ => Tally results it) fetch ⟨rfl, rfl⟩ ?_ ?_ n
  · intro _ results it s ⟨pages, errors⟩ live
    have alive := failed_of_live live
    constructor
    · rw [pagesFetched_record]
      cases (fetch it.request s).1.value <;> simp [pages]
    · rw [failed_record]
      cases (fetch it.request s).1.value <;> simpa [alive] using errors
  · intro _ results it s ⟨pages, errors⟩ _
    obtain ⟨_, _, _, failed, _, fetched⟩ := eq_of_begun_eq it.begun_settled
    exact ⟨by simpa [fetched] using pages, by simpa [failed] using errors⟩

theorem length_sent_pulls (fetch : Fetch σ Req E Page) (initial : Req) (behavior : EndBehavior)
    (s : σ) (n : Nat) :
    (steps (pull fetch.recorded) n (start initial behavior, (s, []))).2.2.2.length =
      (pagesIn (steps (pull fetch.recorded) n (start initial behavior, (s, []))).1).length +
        (errorsIn (steps (pull fetch.recorded) n (start initial behavior, (s, []))).1).length := by
  refine pulls_induction (s := (s, [])) fetch.recorded
    (P := fun _ results _ s => s.2.length = (pagesIn results).length + (errorsIn results).length)
    rfl ?_ ?_ n
  · intro _ results it ⟨s, sent⟩ count _
    simp only at count
    simp only [Fetch.recorded, List.length_append, List.length_singleton, count, pagesIn_append,
      errorsIn_append]
    cases (fetch it.request s).1.value with
    | ok page =>
      simp only [pagesIn_ok, errorsIn_ok, List.length_singleton, List.length_nil]
      omega
    | error e =>
      simp only [pagesIn_error, errorsIn_error, List.length_singleton, List.length_nil]
      omega
  · intro _ results _ s count _
    simpa using count

/-! ### Runs over outcomes -/

/-- Where a run stands after `n` pulls. -/
structure Follows (o : Outcomes E Page) (initial : Req) (behavior : EndBehavior) (n : Nat)
    (results : List (Option (Except E Page))) (it : PageIterator Req C) (sent : List Req) :
    Prop where
  initial_eq : it.initial = initial
  behavior_eq : it.behavior = behavior
  answered : results = o.answers initial behavior n
  asked : sent = o.requests initial behavior n
  live : it.isLive = o.reaches initial behavior n
  cursor : it.cursor = o.token initial sent.length

theorem follows_pulls (o : Outcomes E Page) (initial : Req) (behavior : EndBehavior) (n : Nat) :
    Follows o initial behavior n (steps (pull (.ofOutcomes o)) n (start initial behavior, [])).1
      (steps (pull (.ofOutcomes o)) n (start initial behavior, [])).2.1
      (steps (pull (.ofOutcomes o)) n (start initial behavior, [])).2.2 := by
  refine pulls_induction (P := Follows o initial behavior) (.ofOutcomes o)
    ⟨rfl, rfl, rfl, rfl, rfl, rfl⟩ ?_ ?_ n
  · intro n results it sent before live
    have reached : o.reaches initial behavior n = true := before.live ▸ live
    have count : sent.length = n := by
      rw [before.asked, Outcomes.length_requests reached]
    have token : it.cursor = o.token initial n := by
      rw [before.cursor, count]
    have request : it.request = o.request initial n := by
      rw [request_eq, before.initial_eq, token, Outcomes.request]
    rw [Fetch.ofOutcomes, count, request]
    change Follows o initial behavior (n + 1) (results ++ [some (o n).value])
      (it.record (o n).value) (sent ++ [o.request initial n])
    refine ⟨?_, ?_, ?_, ?_, ?_, ?_⟩
    · rw [initial_record, before.initial_eq]
    · rw [behavior_record, before.behavior_eq]
    · rw [before.answered, Outcomes.answers_succ, reached, if_pos rfl]
    · rw [before.asked, Outcomes.requests_succ, reached, if_pos rfl]
    · rw [isLive_record live, before.behavior_eq, token, Outcomes.reaches_succ, reached,
        Bool.true_and, Outcomes.continues]
    · rw [cursor_record, token, List.length_append, List.length_singleton, count, Outcomes.token]
  · intro n results it sent before dead
    have missed : o.reaches initial behavior n = false := before.live ▸ dead
    obtain ⟨initial_eq, behavior_eq, live, _, cursor, _⟩ := eq_of_begun_eq it.begun_settled
    refine ⟨?_, ?_, ?_, ?_, ?_, ?_⟩
    · rw [initial_eq, before.initial_eq]
    · rw [behavior_eq, before.behavior_eq]
    · rw [before.answered, Outcomes.answers_succ, missed]
      rfl
    · rw [before.asked, Outcomes.requests_succ, missed]
      simp
    · rw [live, dead, Outcomes.reaches_succ, missed, Bool.false_and]
    · rw [cursor, before.cursor]

theorem cursor_of_error {o : Outcomes E Page} {initial : Req} {behavior : EndBehavior} {n : Nat}
    {results : List (Option (Except E Page))} {it : PageIterator Req C} {sent : List Req}
    (h : Follows o initial behavior n results it sent) {k : Nat} {e : E} (hk : k < n)
    (reached : o.reaches initial behavior k = true) (failed : (o k).value = .error e) :
    it.cursor = o.token initial k := by
  have last : o.reaches initial behavior (k + 1) = false := by
    rw [Outcomes.reaches_succ, Outcomes.continues, failed, goesOn, Bool.and_false]
  have count : sent.length = k + 1 := by
    rw [h.asked, Outcomes.requests_of_missed last hk, Outcomes.requests_succ, reached, if_pos rfl,
      List.length_append, Outcomes.length_requests reached, List.length_singleton]
  rw [h.cursor, count, Outcomes.token, failed, tokenAfter]

/-! ### Runs to the end -/

theorem drain_of_not_live (F : Fetcher σ Req E Page) {it : PageIterator Req C} (s : σ)
    (h : it.isLive = false) :
    ((pulled F).drain (it, s)).1 = [] ∧ ((pulled F).drain (it, s)).2.2 = s := by
  rw [Pulled.drain_of_none (q := pulled F) (pull_of_not_live F.fetch s h)]
  exact ⟨rfl, rfl⟩

theorem drain_of_live (F : Fetcher σ Req E Page) {it : PageIterator Req C} (s : σ)
    (h : it.isLive = true) :
    (pulled F).drain (it, s) =
      ((F.fetch it.request s).1.value ::
        ((pulled F).drain (it.record (F.fetch it.request s).1.value, (F.fetch it.request s).2)).1,
      ((pulled F).drain (it.record (F.fetch it.request s).1.value, (F.fetch it.request s).2)).2) :=
  Pulled.drain_of_some (q := pulled F) (pull_of_live F.fetch s h)

theorem drain_of_last (F : Fetcher σ Req E Page) {it : PageIterator Req C} (s : σ)
    (live : it.isLive = true)
    (last : goesOn it.behavior it.cursor (F.fetch it.request s).1.value = false) :
    (((pulled F).drain (it, s)).1, ((pulled F).drain (it, s)).2.2) =
      ([(F.fetch it.request s).1.value], (F.fetch it.request s).2) := by
  rw [← isLive_record live] at last
  obtain ⟨rest, final⟩ := drain_of_not_live F (F.fetch it.request s).2 last
  rw [drain_of_live F s live, rest, final]

theorem drain_eq_runFrom (F : Fetcher σ Req E Page) (behavior : EndBehavior) (initial : Req)
    (used : Option C) (s : σ) (it : PageIterator Req C) (live : it.isLive = true)
    (hi : it.initial = initial) (hb : it.behavior = behavior) (hc : it.cursor = used) :
    (((pulled F).drain (it, s)).1, ((pulled F).drain (it, s)).2.2) =
      runFrom F behavior initial used s := by
  -- The cases are those of the recursion; the iterator changes along with its token.
  fun_induction runFrom F behavior initial used s generalizing it with
  | case1 used s e hv =>
    rw [← hi, ← hc, ← request_eq] at hv ⊢
    rw [drain_of_last F s live (by rw [hv, goesOn]), hv]
  | case2 used s page hv _ stop =>
    rw [← hb, ← hc] at stop
    rw [← hi, ← hc, ← request_eq] at hv ⊢
    rw [drain_of_last F s live (by rw [hv, goesOn, stop]; rfl), hv]
  | case3 used s page hv _ proceed rest ih =>
    rw [← hb, ← hc] at proceed
    rw [← hi, ← hc, ← request_eq] at hv
    have alive : (it.record (.ok page : Except E Page)).isLive = true := by
      rw [isLive_record live, goesOn, proceed]
      rfl
    have tail : _ = rest := ih (it.record (.ok page)) alive (by rw [initial_record, hi])
      (by rw [behavior_record, hb]) (by rw [cursor_record, tokenAfter])
    rw [← tail, drain_of_live F s live, hv, request_eq, hi, hc]

theorem drain_start (F : Fetcher σ Req E Page) (initial : Req) (behavior : EndBehavior) (s : σ) :
    (((pulled F).drain (start initial behavior, s)).1,
      ((pulled F).drain (start initial behavior, s)).2.2) = run F behavior initial s :=
  drain_eq_runFrom F behavior initial _ s (start initial behavior) rfl rfl rfl rfl

theorem exists_ended (F : Fetcher σ Req E Page) (it : PageIterator Req C) (s : σ) :
    ∃ n, (steps (pull F.fetch) n (it, s)).2.1.isLive = false := by
  -- By the bound on the answers to come: a pull that yields one lowers it.
  induction hm : (pulled F).left (it, s) using Nat.strongRecOn generalizing it s with
  | ind m ih =>
    cases hl : it.isLive with
    | false => exact ⟨0, hl⟩
    | true =>
      have yields := pull_of_live F.fetch s hl
      have less := (pulled F).left_next (it, s) _ (congrArg Prod.fst yields)
      obtain ⟨n, ended⟩ := ih _ (hm ▸ less) _ _ rfl
      refine ⟨n + 1, ?_⟩
      rw [steps_succ_first]
      exact ended

theorem rests (F : Fetcher σ Req E Page) (x y : PageIterator Req C × σ)
    (h : (pulled F).next x = (none, y)) :
    ∃ z, (pulled F).next y = (none, z) ∧ z.2 = y.2 := by
  obtain ⟨it, s⟩ := x
  have pulled : pull F.fetch (it, s) = (none, y) := h
  cases live : it.isLive with
  | true =>
    rw [pull_of_live F.fetch s live] at pulled
    cases pulled
  | false =>
    rw [pull_of_not_live F.fetch s live] at pulled
    obtain ⟨_, rfl⟩ := Prod.mk.inj pulled
    obtain ⟨_, _, settled, _⟩ := eq_of_begun_eq it.begun_settled
    exact ⟨_, pull_of_not_live F.fetch s (settled.trans live), rfl⟩

/-! ### The reference -/

/-- However often it is pulled, the iterator yields the outcomes of the fetches that are reached and
makes their requests and no other; it counts the pages it has yielded, and an error leaves the token
with the request that failed. Pulled to the end it is the run as a recursion. -/
theorem pulls_eq_reference (initial : Req) (behavior : EndBehavior) :
    (∀ (o : Outcomes E Page) (n : Nat),
      let r := steps (pull (.ofOutcomes o)) n (start initial behavior, [])
      r.1 = o.answers initial behavior n ∧
      r.2.2 = o.requests initial behavior n ∧
      r.2.1.pagesFetched = (pagesIn r.1).length % UInt64.size ∧
      (r.2.1.failed = true ↔ ∃ e, some (.error e) ∈ r.1) ∧
      ∀ k e, k < n → o.reaches initial behavior k = true → (o k).value = .error e →
        r.2.1.failed = true ∧ r.2.1.cursor = o.token initial k) ∧
    ∀ {σ : Type} (F : Fetcher σ Req E Page) (s : σ),
      (((pulled F).drain (start initial behavior, s)).1,
        ((pulled F).drain (start initial behavior, s)).2.2) = run F behavior initial s := by
  refine ⟨fun o n => ?_, fun F s => drain_start F initial behavior s⟩
  intro r
  have follows : Follows o initial behavior n r.1 r.2.1 r.2.2 :=
    follows_pulls o initial behavior n
  have tally : Tally r.1 r.2.1 := tally_pulls _ initial behavior [] n
  refine ⟨follows.answered, follows.asked, tally.pages, tally.failed_iff, ?_⟩
  intro k e hk reached failed
  refine ⟨tally.failed_iff.2 ⟨e, ?_⟩, cursor_of_error follows hk reached failed⟩
  rw [follows.answered, Outcomes.answers, List.mem_map]
  exact ⟨k, List.mem_range.2 hk, by rw [if_pos reached, failed]⟩

end PageIterator

end Pagewise
