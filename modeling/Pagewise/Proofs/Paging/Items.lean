import Pagewise.Paging.Run
import Pagewise.Proofs.Paging.IteratorRun

/-!
The items of a pulled sequence. Taken to the end they are those of its pages. What is still to come is
a list: the items left of the current page, then those of the pages to come, each with the number of
the pull that its page comes from. A call takes the first of them, however many pages without items it
has to skip.
-/
namespace Pagewise

section

variable {E Page Item : Type} (project : Page → Option (List Item))

def itemsIn : Except E Page → List (Except E Item)
  | .ok page => ((project page).getD []).map .ok
  | .error e => [.error e]

/-- The items of pages, each with the number of its page, counted on from a number. -/
def itemsFrom (first : Nat) (pages : List (Except E Page)) : List (Nat × Except E Item) :=
  (pages.zipIdx first).flatMap fun p => (itemsIn project p.1).map fun item => (p.2, item)

theorem itemsFrom_cons (first : Nat) (r : Except E Page) (pages : List (Except E Page)) :
    itemsFrom project first (r :: pages) =
      (itemsIn project r).map (fun item => (first, item)) ++
        itemsFrom project (first + 1) pages := by
  rw [itemsFrom, List.zipIdx_cons, List.flatMap_cons, itemsFrom]

theorem itemsFrom_succ (first : Nat) (pages : List (Except E Page)) :
    itemsFrom project (first + 1) pages =
      (itemsFrom project first pages).map fun p => (p.1 + 1, p.2) := by
  induction pages generalizing first with
  | nil => rfl
  | cons r pages ih =>
    rw [itemsFrom_cons, itemsFrom_cons, ih (first + 1), List.map_append, List.map_map]
    rfl

theorem map_snd_itemsFrom (first : Nat) (pages : List (Except E Page)) :
    (itemsFrom project first pages).map Prod.snd = pages.flatMap (itemsIn project) := by
  induction pages generalizing first with
  | nil => rfl
  | cons r pages ih =>
    rw [itemsFrom_cons, List.map_append, ih, List.map_map, List.flatMap_cons]
    exact congrArg (· ++ _) (List.map_id _)

example : itemsFrom id 0 [.ok (some [1, 2]), .ok none, .ok (some []), .ok (some [3]), .error "e"] =
    [(0, .ok 1), (0, .ok 2), (3, .ok 3), (4, .error "e")] := rfl

end

namespace Pulled

variable {S E Page Item : Type} (q : Pulled S E Page) (project : Page → Option (List Item))

def pullItem (x : S × List Item) : Option (Except E Item) × (S × List Item) :=
  q.nextItem project x.1 x.2

theorem pullItem_cons (s : S) (item : Item) (items : List Item) :
    q.pullItem project (s, item :: items) = (some (.ok item), (s, items)) := by
  rw [pullItem, nextItem]

variable {q}

theorem pullItem_of_none {s t : S} (h : q.next s = (none, t)) :
    q.pullItem project (s, []) = (none, (t, [])) := by
  rw [pullItem, nextItem]
  split <;> simp_all

theorem pullItem_of_error {s t : S} {e : E} (h : q.next s = (some (.error e), t)) :
    q.pullItem project (s, []) = (some (.error e), (t, [])) := by
  rw [pullItem, nextItem]
  split <;> simp_all

theorem pullItem_of_page {s t : S} {page : Page} (h : q.next s = (some (.ok page), t)) :
    q.pullItem project (s, []) = q.pullItem project (t, (project page).getD []) := by
  rw [pullItem, nextItem, pullItem]
  split <;> simp_all

/-- How a call comes about: from an item at hand, from a pull without a page, or from a page and
what is then a call with its items. -/
theorem pullItem_induction {P : S × List Item → Prop}
    (item : ∀ s item items, P (s, item :: items))
    (none : ∀ s t, q.next s = (none, t) → P (s, []))
    (error : ∀ s t e, q.next s = (some (.error e), t) → P (s, []))
    (page : ∀ s t p, q.next s = (some (.ok p), t) → P (t, (project p).getD []) → P (s, []))
    (x : S × List Item) : P x := by
  -- By the bound on the answers to come; the items at hand end a call at once and need none.
  obtain ⟨s, items⟩ := x
  induction hm : q.left s using Nat.strongRecOn generalizing s items with
  | ind m ih =>
    cases items with
    | cons first items => exact item s first items
    | nil =>
      rcases hn : q.next s with ⟨r, t⟩
      cases r with
      | none => exact none s t hn
      | some r =>
        cases r with
        | error e => exact error s t e hn
        | ok p => exact page s t p hn (ih _ (hm ▸ left_lt hn) t _ rfl)

theorem exists_pulls_of_pullItem (x : S × List Item) :
    ∃ m ≤ q.left x.1 + 1, (q.pullItem project x).2.1 = (steps q.next m x.1).2 := by
  induction x using pullItem_induction (q := q) project with
  | item s item items => exact ⟨0, by omega, by rw [pullItem_cons]; rfl⟩
  | none s t h => exact ⟨1, by omega, by rw [pullItem_of_none project h, steps, steps, h]⟩
  | error s t e h => exact ⟨1, by omega, by rw [pullItem_of_error project h, steps, steps, h]⟩
  | page s t p h ih =>
    obtain ⟨m, few, same⟩ := ih
    have less : q.left t < q.left s := left_lt h
    simp only at few less ⊢
    refine ⟨m + 1, by omega, ?_⟩
    rw [pullItem_of_page project h, same, steps_succ_first, h]

/-! ### Sequences to their ends -/

theorem drainItems_of_none {s t : S} (h : q.next s = (none, t)) :
    q.drainItems project s [] = ([], t) := by
  rw [drainItems]
  split <;> simp_all

theorem drainItems_of_error {s t : S} {e : E} (h : q.next s = (some (.error e), t)) :
    q.drainItems project s [] =
      (.error e :: (q.drainItems project t []).1, (q.drainItems project t []).2) := by
  rw [drainItems]
  split <;> simp_all

theorem drainItems_of_page {s t : S} {page : Page} (h : q.next s = (some (.ok page), t)) :
    q.drainItems project s [] = q.drainItems project t ((project page).getD []) := by
  rw [drainItems]
  split <;> simp_all

theorem drainItems_append (s : S) (items : List Item) :
    q.drainItems project s items =
      (items.map .ok ++ (q.drainItems project s []).1, (q.drainItems project s []).2) := by
  induction items with
  | nil => rfl
  | cons item items ih =>
    rw [drainItems, ih]
    rfl

theorem drainItems_eq (s : S) :
    q.drainItems project s [] =
      ((q.drain s).1.flatMap (itemsIn project), (q.drain s).2) := by
  -- By the bound on the answers to come: every pull that yields one lowers it.
  induction hm : q.left s using Nat.strongRecOn generalizing s with
  | ind m ih =>
    rcases hn : q.next s with ⟨r, t⟩
    cases r with
    | none =>
      rw [drainItems_of_none project hn, drain_of_none hn]
      rfl
    | some r =>
      have rest := ih _ (hm ▸ left_lt hn) t rfl
      rw [drain_of_some hn, List.flatMap_cons]
      cases r with
      | error e =>
        rw [drainItems_of_error project hn, rest]
        rfl
      | ok page =>
        rw [drainItems_of_page project hn, drainItems_append, rest]
        rfl

/-! ### What is to come -/

structure Counts (q : Pulled S E Page) (count : S → Nat) : Prop where
  answered : ∀ s t r, q.next s = (some r, t) → count t = count s + 1
  ended : ∀ s t, q.next s = (none, t) → (q.next t).1 = none

theorem Counts.drain_steps {count : S → Nat} (counts : q.Counts count) (n : Nat) (s : S) :
    (q.drain (steps q.next n s).2).1 = (q.drain s).1.drop n := by
  induction n generalizing s with
  | zero => rfl
  | succ n ih =>
    rw [steps_succ_first, ih]
    rcases h : q.next s with ⟨r, t⟩
    cases r with
    | none =>
      have again : q.next t = (none, (q.next t).2) := Prod.ext (counts.ended s t h) rfl
      rw [drain_of_none h, drain_of_none again, List.drop_nil, List.drop_nil]
    | some r => rw [drain_of_some h, List.drop_succ_cons]

theorem Counts.count_steps {count : S → Nat} (counts : q.Counts count) (n : Nat) (s : S)
    (more : n ≤ (q.drain s).1.length) : count (steps q.next n s).2 = count s + n := by
  induction n generalizing s with
  | zero => rfl
  | succ n ih =>
    rcases h : q.next s with ⟨r, t⟩
    cases r with
    | none => simp [drain_of_none h] at more
    | some r =>
      have fewer : n ≤ (q.drain t).1.length := by
        simpa [drain_of_some h] using more
      rw [steps_succ_first, h, ih t fewer, counts.answered s t r h]
      omega

variable (q) in
/-- The items to come, each with the number of answers by the time that it is given. -/
def toCome (count : S → Nat) (x : S × List Item) : List (Nat × Except E Item) :=
  x.2.map (fun item => (count x.1, .ok item)) ++
    itemsFrom project (count x.1 + 1) (q.drain x.1).1

variable {count : S → Nat}

theorem toCome_steps (counts : q.Counts count) {s : S} (first : count s = 0) (m : Nat) :
    q.toCome project count ((steps q.next m s).2, []) =
      (itemsFrom project m ((q.drain s).1.drop m)).map fun p => (p.1 + 1, p.2) := by
  rw [toCome, counts.drain_steps, List.map_nil, List.nil_append]
  by_cases more : m ≤ (q.drain s).1.length
  · rw [counts.count_steps m s more, first, Nat.zero_add, itemsFrom_succ]
  · have none_left : (q.drain s).1.drop m = [] := List.drop_eq_nil_of_le (by omega)
    rw [none_left]
    rfl

theorem toCome_of_none {s t : S} (h : q.next s = (none, t)) :
    q.toCome project count (s, []) = [] := by
  rw [toCome, drain_of_none h]
  rfl

theorem toCome_of_some (counts : q.Counts count) {s t : S} {r : Except E Page}
    (h : q.next s = (some r, t)) :
    q.toCome project count (s, []) =
      (itemsIn project r).map (fun item => (count t, item)) ++ q.toCome project count (t, []) := by
  rw [toCome, drain_of_some h, itemsFrom_cons, toCome, counts.answered s t r h]
  rfl

theorem pullItem_toCome (counts : q.Counts count) (x : S × List Item) :
    (q.pullItem project x).1 = (q.toCome project count x).head?.map Prod.snd ∧
      q.toCome project count (q.pullItem project x).2 = (q.toCome project count x).tail ∧
      ∀ p ∈ (q.toCome project count x).head?, count (q.pullItem project x).2.1 = p.1 := by
  induction x using pullItem_induction (q := q) project with
  | item s item items =>
    rw [pullItem_cons]
    refine ⟨rfl, rfl, ?_⟩
    rintro p ⟨⟩
    rfl
  | none s t h =>
    -- The items to come after the call are those of another pull, which gives none either.
    obtain ⟨u, again⟩ : ∃ u, q.next t = (none, u) := ⟨_, Prod.ext (counts.ended s t h) rfl⟩
    rw [pullItem_of_none project h, toCome_of_none project h, toCome_of_none project again]
    simp
  | error s t e h =>
    rw [pullItem_of_error project h, toCome_of_some project counts h]
    refine ⟨rfl, rfl, ?_⟩
    rintro p ⟨⟩
    rfl
  | page s t p h ih =>
    have same : q.toCome project count (s, []) =
        q.toCome project count (t, (project p).getD []) := by
      rw [toCome_of_some project counts h, itemsIn, List.map_map]
      rfl
    rw [pullItem_of_page project h, same]
    exact ih

theorem steps_pullItem (counts : q.Counts count) (x : S × List Item) (n : Nat) :
    (steps (q.pullItem project) n x).1 =
        (List.range n).map (fun i => (q.toCome project count x)[i]?.map Prod.snd) ∧
      q.toCome project count (steps (q.pullItem project) n x).2 =
        (q.toCome project count x).drop n := by
  induction n with
  | zero => exact ⟨rfl, rfl⟩
  | succ n ih =>
    obtain ⟨given, left⟩ := ih
    obtain ⟨first, rest, _⟩ := pullItem_toCome project counts (steps (q.pullItem project) n x).2
    rw [left] at first rest
    rw [steps_succ]
    constructor
    · rw [given, first, List.head?_drop, List.range_succ, List.map_append]
      rfl
    · rw [rest, List.tail_drop]

theorem pullItem_steps (counts : q.Counts count) (x : S × List Item) (n : Nat) :
    let call := q.pullItem project (steps (q.pullItem project) n x).2
    call.1 = (q.toCome project count x)[n]?.map Prod.snd ∧
      ∀ p ∈ (q.toCome project count x)[n]?, count call.2.1 = p.1 := by
  obtain ⟨first, _, counted⟩ := pullItem_toCome project counts (steps (q.pullItem project) n x).2
  rw [(steps_pullItem project counts x n).2, List.head?_drop] at first counted
  exact ⟨first, counted⟩

end Pulled

end Pagewise
