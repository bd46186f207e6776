import Pagewise.Proofs.Paging.ItemStream

/-!
Pages flattened into items, by a stream and by an iterator. Both give the items of the pages of the
run one after another, and ask for a page only when the items before it are used up.
-/
namespace Pagewise

variable {σ Req E Page C Item : Type} [Cursor C] [CursorRequest Req C] [CursorResponse Page C]

namespace PageIterator

theorem counts_sent (F : Fetcher σ Req E Page) :
    (pulled (C := C) F.recorded).Counts fun x => x.2.2.length where
  answered x t r h := by
    obtain ⟨it, s⟩ := x
    have pulled : pull F.recorded.fetch (it, s) = (some r, t) := h
    cases live : it.isLive with
    | true =>
      rw [pull_of_live _ s live] at pulled
      obtain ⟨_, rfl⟩ := Prod.mk.inj pulled
      exact List.length_append
    | false =>
      rw [pull_of_not_live _ s live] at pulled
      cases pulled
  ended x t h := by
    obtain ⟨_, again, _⟩ := rests F.recorded x t h
    exact congrArg Prod.fst again

end PageIterator

variable (F : Fetcher σ Req E Page) (project : Page → Option (List Item)) (initial : Req)
  (behavior : EndBehavior) (s : σ)

def pagesFrom (m : Nat) : List (Except E Page) :=
  (run F.recorded behavior initial (s, [])).1.drop m

namespace PageIterator

theorem toCome_pulls (m : Nat) :
    (pulled F.recorded).toCome project (fun x => x.2.2.length)
        ((steps (pulled F.recorded).next m (start initial behavior, (s, []))).2, []) =
      (itemsFrom project m (pagesFrom F initial behavior s m)).map fun p => (p.1 + 1, p.2) := by
  rw [Pulled.toCome_steps project (counts_sent F) rfl m, pagesFrom, ← drain_start]

theorem pulls_items (m n : Nat) :
    let q := pulled F.recorded
    let taken := steps q.next m (start initial behavior, (s, []))
    let r := steps (q.pullItem project) n (taken.2, [])
    let call := q.pullItem project r.2
    let pages := pagesFrom F initial behavior s m
    r.1 = (List.range n).map (fun i => (pages.flatMap (itemsIn project))[i]?) ∧
    ∀ item, call.1 = some item →
      ∃ j, (itemsFrom project m pages)[n]? = some (j, item) ∧ call.2.1.2.2.length = j + 1 := by
  intro q taken r call pages
  have come := toCome_pulls F project initial behavior s m
  constructor
  · have given : r.1 = _ := (Pulled.steps_pullItem project (counts_sent F) (taken.2, []) n).1
    have item (i : Nat) :
        (q.toCome project (fun x => x.2.2.length) (taken.2, []))[i]?.map Prod.snd =
          (pages.flatMap (itemsIn project))[i]? := by
      rw [← List.getElem?_map, come, List.map_map, ← map_snd_itemsFrom project m]
      rfl
    exact given.trans (List.map_congr_left fun i _ => item i)
  · intro item given
    obtain ⟨next, counted⟩ := Pulled.pullItem_steps project (counts_sent F) (taken.2, []) n
    rw [come, List.getElem?_map] at next counted
    obtain ⟨_, taken, rfl⟩ := Option.map_eq_some_iff.1 (next.symm.trans given)
    obtain ⟨⟨j, item⟩, here, rfl⟩ := Option.map_eq_some_iff.1 taken
    exact ⟨j, here, counted _ taken⟩

end PageIterator

namespace PageStream

theorem polls_items (k n : Nat) :
    let q := polled F.recorded
    let taken := steps q.poll k (start initial behavior, (s, []))
    let r := steps (q.pollForItem project) n (taken.2, [])
    let call := q.pollForItem project r.2
    let m := (answersIn taken.1).length
    let c := (answersIn r.1).length
    let pages := pagesFrom F initial behavior s m
    answersIn r.1 = (List.range c).map (fun i => (pages.flatMap (itemsIn project))[i]?) ∧
    ∀ item, call.1 = .ready (some item) →
      ∃ j, (itemsFrom project m pages)[c]? = some (j, item) ∧ call.2.1.2.2.length = j + 1 := by
  intro q taken r call m c pages
  have along : Alongside F.recorded.fetch taken.2 _ :=
    ((alongside_start F.recorded.fetch initial behavior (s, [])).polls k).2
  obtain ⟨same, related⟩ := (simulates_items F.recorded project).polls along.amid n
  obtain ⟨given, counted⟩ := PageIterator.pulls_items F project initial behavior s m c
  refine ⟨same.symm.trans given, ?_⟩
  intro item ready
  rcases related.advances with ⟨waits, _⟩ | ⟨answered, level⟩
  · exact absurd (waits.symm.trans ready) (by simp)
  · obtain ⟨j, here, sent⟩ := counted item (Poll.ready.inj (answered.symm.trans ready))
    refine ⟨j, here, ?_⟩
    rw [level.along.eq_of_idle level.idle]
    exact sent

theorem exists_polls_items (k c : Nat) :
    let q := polled F.recorded
    let taken := steps q.poll k (start initial behavior, (s, []))
    ∃ n, (answersIn (steps (q.pollForItem project) n (taken.2, [])).1).length = c := by
  intro q taken
  have along : Alongside F.recorded.fetch taken.2 _ :=
    ((alongside_start F.recorded.fetch initial behavior (s, [])).polls k).2
  exact along.exists_answers_items project c

end PageStream

/-- Over any fetcher whose pages run out, an iterator from which `m` pages were taken and a stream
that was polled `k` times are flattened to the same: the items of the pages that are left, page by
page, an error in the place of its page, and then the end for good. When an item of page `j` is given
the fetches of the pages up to `j` have been made and no other. Every call comes to its end after
pulls or polls that are bounded by the pages to come, and any number of demands on the stream is
answered in the end. -/
theorem flatten_in_order :
    (∀ m n : Nat,
      let q := PageIterator.pulled F.recorded
      let taken := steps q.next m (.start initial behavior, (s, []))
      let r := steps (q.pullItem project) n (taken.2, [])
      let call := q.pullItem project r.2
      let pages := pagesFrom F initial behavior s m
      r.1 = (List.range n).map (fun i => (pages.flatMap (itemsIn project))[i]?) ∧
      (∀ item, call.1 = some item →
        ∃ j, (itemsFrom project m pages)[n]? = some (j, item) ∧ call.2.1.2.2.length = j + 1) ∧
      ∃ i ≤ q.left r.2.1 + 1, call.2.1 = (steps q.next i r.2.1).2) ∧
    ∀ k : Nat,
      let q := PageStream.polled F.recorded
      let taken := steps q.poll k (.start initial behavior, (s, []))
      let m := (answersIn taken.1).length
      let pages := pagesFrom F initial behavior s m
      (∀ n : Nat,
        let r := steps (q.pollForItem project) n (taken.2, [])
        let call := q.pollForItem project r.2
        let c := (answersIn r.1).length
        answersIn r.1 = (List.range c).map (fun i => (pages.flatMap (itemsIn project))[i]?) ∧
        (∀ item, call.1 = .ready (some item) →
          ∃ j, (itemsFrom project m pages)[c]? = some (j, item) ∧ call.2.1.2.2.length = j + 1) ∧
        ∃ i ≤ q.left r.2.1 + 1, call.2.1 = (steps q.poll i r.2.1).2) ∧
      ∀ c : Nat, ∃ n, (answersIn (steps (q.pollForItem project) n (taken.2, [])).1).length = c := by
  constructor
  · intro m n q taken r call pages
    obtain ⟨given, counted⟩ := PageIterator.pulls_items F project initial behavior s m n
    exact ⟨given, counted, Pulled.exists_pulls_of_pullItem project r.2⟩
  · intro k q taken m pages
    refine ⟨?_, PageStream.exists_polls_items F project initial behavior s k⟩
    intro n r call c
    obtain ⟨given, counted⟩ := PageStream.polls_items F project initial behavior s k n
    exact ⟨given, counted, Polled.exists_polls_of_pollForItem project r.2⟩

end Pagewise
