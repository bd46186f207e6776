import Pagewise.Proofs.Paging.ItemStream

/-!
Sequences taken to their ends, and what can be seen of the state that they end with. For a page
iterator it is the same whether its pages are taken or their items, and for a page stream it is
that of the iterator.
-/
namespace Pagewise

/-! ### Steps that give out -/

section

variable {S A V : Type}

/-- A step gives what is left one by one, and none from then on, with no more change to be seen. -/
structure GivesOut (step : S → Option A × S) (view : S → V) (left : S → List A × V) : Prop where
  given : ∀ s t a, step s = (some a, t) → left s = (a :: (left t).1, (left t).2)
  ended : ∀ s t, step s = (none, t) → left s = ([], view t) ∧ left t = ([], view t)

namespace GivesOut

variable {step : S → Option A × S} {view : S → V} {left : S → List A × V}

theorem left_steps (gives : GivesOut step view left) (n : Nat) (s : S) :
    left s = ((steps step n s).1.filterMap id ++ (left (steps step n s).2).1,
      (left (steps step n s).2).2) := by
  induction n with
  | zero => rfl
  | succ n ih =>
    rw [steps_succ, ih]
    rcases h : step (steps step n s).2 with ⟨r, t⟩
    cases r with
    | none =>
      obtain ⟨before, after⟩ := gives.ended _ _ h
      simp [before, after]
    | some a => simp [gives.given _ _ _ h]

theorem of_ended (gives : GivesOut step view left) {n : Nat} {s : S}
    (ended : (step (steps step n s).2).1 = none) :
    ((steps step n s).1.filterMap id, view (step (steps step n s).2).2) = left s := by
  obtain ⟨nothing, _⟩ := gives.ended _ _ (Prod.ext ended rfl)
  rw [gives.left_steps n s, nothing, List.append_nil]

theorem exists_ended (gives : GivesOut step view left) (s : S) :
    ∃ n, (step (steps step n s).2).1 = none := by
  induction hl : (left s).1 generalizing s with
  | nil =>
    refine ⟨0, ?_⟩
    rcases h : step s with ⟨r, t⟩
    cases r with
    | none => exact congrArg Prod.fst h
    | some a => simp [gives.given _ _ _ h] at hl
  | cons a later ih =>
    rcases h : step s with ⟨r, t⟩
    cases r with
    | none => exact ⟨0, congrArg Prod.fst h⟩
    | some b =>
      rw [gives.given _ _ _ h] at hl
      obtain ⟨n, ended⟩ := ih t (List.cons.inj hl).2
      refine ⟨n + 1, ?_⟩
      rw [steps_succ_first, h]
      exact ended

end GivesOut

/-! ### Polls that give out -/

namespace Simulates

variable {X Y : Type} {poll : X → Poll (Option A) × X} {pull : Y → Option A × Y} {R : X → Y → Prop}
  {view : Y → V} {left : Y → List A × V}

theorem of_ended (sim : Simulates poll pull R) (gives : GivesOut pull view left) (seen : X → V)
    (same : ∀ x y a, R x y → (poll x).1 = .ready a → seen (poll x).2 = view (pull y).2)
    {x : X} {y : Y} (h : R x y) {n : Nat} (ended : (poll (steps poll n x).2).1 = .ready none) :
    ((answersIn (steps poll n x).1).filterMap id, seen (poll (steps poll n x).2).2) = left y := by
  obtain ⟨answers, related⟩ := sim.polls h n
  cases sim _ _ related with
  | inl waits => exact absurd (waits.1.symm.trans ended) (by simp)
  | inr answered =>
    have none_left := Poll.ready.inj (answered.1.symm.trans ended)
    rw [same _ _ _ related ended, ← gives.of_ended none_left, answers]

theorem exists_ended (sim : Simulates poll pull R) (gives : GivesOut pull view left) {x : X} {y : Y}
    (h : R x y) (answers : ∀ c, ∃ n, (answersIn (steps poll n x).1).length = c) :
    ∃ n, (poll (steps poll n x).2).1 = .ready none := by
  obtain ⟨c, ended⟩ := gives.exists_ended y
  obtain ⟨n, count⟩ := answers (c + 1)
  have given := (sim.polls h n).1
  rw [count, steps_succ, ended] at given
  have among : none ∈ answersIn (steps poll n x).1 := by
    rw [← given]
    exact List.mem_append_right _ List.mem_cons_self
  obtain ⟨r, polled, is⟩ := List.mem_filterMap.1 among
  cases r with
  | pending => cases is
  | ready a =>
    obtain rfl := Option.some.inj is
    obtain ⟨k, _, is⟩ := (mem_steps poll).1 polled
    exact ⟨k, is⟩

end Simulates

end

/-! ### Pages and their items -/

namespace Pulled

variable {S E Page Item V : Type} {q : Pulled S E Page} {view : S → V}

theorem givesOut_next
    (rests : ∀ s t, q.next s = (none, t) → ∃ u, q.next t = (none, u) ∧ view u = view t) :
    GivesOut q.next view fun s => ((q.drain s).1, view (q.drain s).2) where
  given s t r h := by rw [drain_of_some h]
  ended s t h := by
    obtain ⟨u, again, same⟩ := rests s t h
    rw [drain_of_none h, drain_of_none again, same]
    exact ⟨rfl, rfl⟩

theorem givesOut_pullItem (project : Page → Option (List Item))
    (rests : ∀ s t, q.next s = (none, t) → ∃ u, q.next t = (none, u) ∧ view u = view t) :
    GivesOut (q.pullItem project) (fun x => view x.1) fun x =>
      ((q.drainItems project x.1 x.2).1, view (q.drainItems project x.1 x.2).2) where
  given x y item := by
    induction x using pullItem_induction (q := q) project with
    | item s item items =>
      rw [pullItem_cons]
      rintro ⟨⟩
      rw [drainItems]
    | none s t h =>
      rw [pullItem_of_none project h]
      rintro ⟨⟩
    | error s t e h =>
      rw [pullItem_of_error project h]
      rintro ⟨⟩
      rw [drainItems_of_error project h]
    | page s t p h ih =>
      rw [pullItem_of_page project h, drainItems_of_page project h]
      exact ih
  ended x y := by
    induction x using pullItem_induction (q := q) project with
    | item s item items =>
      rw [pullItem_cons]
      rintro ⟨⟩
    | none s t h =>
      obtain ⟨u, again, same⟩ := rests s t h
      rw [pullItem_of_none project h]
      rintro ⟨⟩
      rw [drainItems_of_none project h, drainItems_of_none project again, same]
      exact ⟨rfl, rfl⟩
    | error s t e h =>
      rw [pullItem_of_error project h]
      rintro ⟨⟩
    | page s t p h ih =>
      rw [pullItem_of_page project h, drainItems_of_page project h]
      exact ih

end Pulled

variable {σ Req E Page C Item : Type} [Cursor C] [CursorRequest Req C] [CursorResponse Page C]

namespace PageStream

variable (F : Fetcher σ Req E Page) (project : Page → Option (List Item)) (initial : Req)
  (behavior : EndBehavior) (s : σ)

theorem exists_ended_pages :
    let q := polled F
    ∃ n, (q.poll (steps q.poll n (start initial behavior, s)).2).1 = .ready none := by
  refine (Alongside.simulates F.fetch).exists_ended
    (Pulled.givesOut_next (PageIterator.rests F)) (alongside_start F.fetch initial behavior s) ?_
  intro c
  obtain ⟨n, count, _⟩ := exists_polls_start F.fetch initial behavior s c
  exact ⟨n, count⟩

theorem exists_ended_items :
    let q := polled F
    ∃ n, (q.pollForItem project
      (steps (q.pollForItem project) n ((start initial behavior, s), [])).2).1 = .ready none :=
  (simulates_items F project).exists_ended
    (Pulled.givesOut_pullItem project (PageIterator.rests F))
    (alongside_start F.fetch initial behavior s).amid
    ((alongside_start F.fetch initial behavior s).exists_answers_items project)

variable {n : Nat}

theorem pages_of_ended (ended : ((polled F).poll
      (steps (polled F).poll n (start initial behavior, s)).2).1 = .ready none) :
    let q := polled F
    let r := steps q.poll n (start initial behavior, s)
    ((answersIn r.1).filterMap id, (q.poll r.2).2.2) = run F behavior initial s := by
  intro q r
  rw [← PageIterator.drain_start F initial behavior s]
  refine (Alongside.simulates F.fetch).of_ended
    (Pulled.givesOut_next (PageIterator.rests F)) Prod.snd ?_
    (alongside_start F.fetch initial behavior s) ended
  intro x y a along answered
  cases along.poll_cases with
  | inl waits => exact absurd (waits.1.symm.trans answered) (by simp)
  | inr next => exact next.2.2.eq_of_idle next.2.1

theorem items_of_ended (ended : ((polled F).pollForItem project
      (steps ((polled F).pollForItem project) n ((start initial behavior, s), [])).2).1 =
        .ready none) :
    let q := polled F
    let r := steps (q.pollForItem project) n ((start initial behavior, s), [])
    ((answersIn r.1).filterMap id, (q.pollForItem project r.2).2.1.2) =
      ((run F behavior initial s).1.flatMap (itemsIn project), (run F behavior initial s).2) := by
  intro q r
  have first := alongside_start F.fetch initial behavior s
  have drained := (simulates_items F project).of_ended
    (Pulled.givesOut_pullItem project (PageIterator.rests F)) (fun x => x.1.2) ?_ first.amid ended
  · rw [← PageIterator.drain_start F initial behavior s]
    rw [Pulled.drainItems_eq] at drained
    exact drained
  · intro x y a amid answered
    cases amid.advances with
    | inl waits => exact absurd (waits.1.symm.trans answered) (by simp)
    | inr level => exact level.2.along.eq_of_idle level.2.idle

end PageStream

end Pagewise
