import Pagewise.Proofs.Paging.StreamInvariant

/-!
The state of a run under any history of what can be done to it: pages are recorded, and the run is
marked done, in any order and also after its end. The token, the count and the verdicts depend on the
pages alone. The run is open for as long as no verdict and no mark has closed it.
-/
namespace Pagewise

/-- What can be done to the state of a run. -/
inductive CursorEvent (Page : Type) where
  | advance (page : Page)
  | markDone

namespace CursorEvent

variable {Page : Type}

def page? : CursorEvent Page → Option Page
  | .advance page => some page
  | .markDone => none

def recorded (history : List (CursorEvent Page)) : List Page := history.filterMap page?

@[simp] theorem recorded_nil : recorded ([] : List (CursorEvent Page)) = [] := rfl

@[simp] theorem recorded_advance (page : Page) (rest : List (CursorEvent Page)) :
    recorded (.advance page :: rest) = page :: recorded rest := rfl

@[simp] theorem recorded_markDone (rest : List (CursorEvent Page)) :
    recorded (.markDone :: rest) = recorded rest := rfl

end CursorEvent

namespace CursorState

open CursorEvent

variable {Page C : Type} [Cursor C] [CursorResponse Page C]

def take (behavior : EndBehavior) (s : CursorState C) :
    CursorEvent Page → Option Verdict × CursorState C
  | .advance page =>
    let r := s.advance behavior page
    (some r.1, r.2)
  | .markDone => (none, s.markDone)

def replay (behavior : EndBehavior) (s : CursorState C) :
    List (CursorEvent Page) → List Verdict × CursorState C
  | [] => ([], s)
  | event :: rest =>
    let first := s.take behavior event
    let later := replay behavior first.2 rest
    (first.1.toList ++ later.1, later.2)

theorem replay_append (behavior : EndBehavior) (s : CursorState C)
    (history more : List (CursorEvent Page)) :
    (s.replay behavior (history ++ more)).2 =
      ((s.replay behavior history).2.replay behavior more).2 := by
  induction history generalizing s with
  | nil => rfl
  | cons event rest ih => exact ih (s.take behavior event).2

/-- The tokens that pages are fetched with, the first one being given, and the token of the last. -/
def tokens (first : Option C) (pages : List Page) : List (Option C) :=
  first :: pages.map CursorResponse.nextCursor

/-- The verdicts on pages, each from the token before it, its own token and its own flags. -/
def verdicts (behavior : EndBehavior) (first : Option C) (pages : List Page) : List Verdict :=
  List.zipWith (fun used page =>
    behavior.decide used (CursorResponse.nextCursor page) (CursorResponse.memberFlag page))
    (tokens first pages) pages

/-- What a history makes of a state. -/
structure Follows (behavior : EndBehavior) (s : CursorState C) (history : List (CursorEvent Page))
    (given : List Verdict) (t : CursorState C) : Prop where
  pages : t.pages = (s.pages + (recorded history).length) % UInt64.size
  cursor : t.cursor = ((recorded history).getLast?.map CursorResponse.nextCursor).getD s.cursor
  judged : given = verdicts behavior s.cursor (recorded history)
  hasNext : t.hasNext = true ↔
    s.hasNext = true ∧ .markDone ∉ history ∧ ∀ v ∈ given, v = .proceed

theorem follows_nil (behavior : EndBehavior) (s : CursorState C) :
    Follows behavior s ([] : List (CursorEvent Page)) [] s where
  pages := (Nat.mod_eq_of_lt s.count.toNat_lt).symm
  cursor := rfl
  judged := rfl
  hasNext := by simp

theorem Follows.advance {behavior : EndBehavior} {s t : CursorState C} {page : Page}
    {rest : List (CursorEvent Page)} {given : List Verdict}
    (h : Follows behavior (s.advance behavior page).2 rest given t) :
    Follows behavior s (.advance page :: rest) (s.verdict behavior page :: given) t where
  pages := by
    rw [h.pages, pages_advance, Nat.mod_add_mod, recorded_advance, List.length_cons,
      Nat.add_right_comm, Nat.add_assoc]
  cursor := by
    rw [h.cursor, cursor_advance, recorded_advance, List.getLast?_cons]
    cases (recorded rest).getLast? <;> rfl
  judged := by
    rw [h.judged, cursor_advance]
    rfl
  hasNext := by
    rw [h.hasNext, hasNext_advance, Bool.and_eq_true, decide_eq_true_iff]
    simp only [List.mem_cons, reduceCtorEq, false_or, forall_eq_or_imp]
    exact ⟨fun ⟨⟨open_before, proceeds⟩, unmarked, later⟩ =>
        ⟨open_before, unmarked, proceeds, later⟩,
      fun ⟨open_before, unmarked, proceeds, later⟩ =>
        ⟨⟨open_before, proceeds⟩, unmarked, later⟩⟩

theorem Follows.markDone {behavior : EndBehavior} {s t : CursorState C}
    {rest : List (CursorEvent Page)} {given : List Verdict}
    (h : Follows behavior s.markDone rest given t) :
    Follows behavior s (.markDone :: rest) given t where
  pages := h.pages
  cursor := h.cursor
  judged := h.judged
  hasNext := by
    rw [h.hasNext]
    simp [CursorState.markDone]

theorem follows_replay (behavior : EndBehavior) (s : CursorState C)
    (history : List (CursorEvent Page)) :
    Follows behavior s history (s.replay behavior history).1 (s.replay behavior history).2 := by
  -- By the events, for any state: the first event leaves another one to the rest.
  induction history generalizing s with
  | nil => exact follows_nil behavior s
  | cons event rest ih =>
    cases event with
    | advance page => exact (ih (s.advance behavior page).2).advance
    | markDone => exact (ih s.markDone).markDone

/-- Whatever is done to the state of a run, the count is the number of pages, as long as 64 bits hold
it, the token is that of the last page, and every page is judged by the token that the page before it
has left. The run is open just if it was never marked done and every page said to go on; once closed
it stays so. -/
theorem replay_start (behavior : EndBehavior) (initial : Option C)
    (history : List (CursorEvent Page)) :
    let r := (start initial).replay behavior history
    (history.length < UInt64.size → r.2.pages = (recorded history).length) ∧
    r.2.cursor = ((recorded history).getLast?.map CursorResponse.nextCursor).getD initial ∧
    r.1 = verdicts behavior initial (recorded history) ∧
    (r.2.hasNext = true ↔ .markDone ∉ history ∧ ∀ v ∈ r.1, v = .proceed) ∧
    ∀ more : List (CursorEvent Page),
      ((start initial).replay behavior (history ++ more)).2.hasNext = true →
        r.2.hasNext = true := by
  intro r
  have follows : Follows behavior (start initial) history r.1 r.2 := follows_replay _ _ _
  refine ⟨fun few => ?_, follows.cursor, follows.judged, ?_, fun more still => ?_⟩
  · have fewer : (recorded history).length ≤ history.length := List.length_filterMap_le _ _
    have none_before : (start initial).pages = 0 := rfl
    rw [follows.pages, none_before, Nat.zero_add, Nat.mod_eq_of_lt (by omega)]
  · rw [follows.hasNext]
    exact and_iff_right rfl
  · rw [replay_append] at still
    exact ((follows_replay behavior r.2 more).hasNext.1 still).1

theorem listItems_replayed :
    let body : Document := .object (.cons "NextToken" nofun (.string "2") .nil)
    let page : DocumentPage := ⟨.listItems, body⟩
    let history : List (CursorEvent DocumentPage) := [.advance page, .markDone, .advance page]
    let r := (start none).replay .identicalToken history
    history.length < UInt64.size ∧ r.2.pages = 2 ∧ r.2.cursor = some (.string "2") ∧
      r.1 = [.proceed, .stop] ∧ r.2.hasNext = false := by
  intro body page history r
  obtain ⟨count, token, judged, isOpen, _⟩ := replay_start .identicalToken none history
  have few : history.length < UInt64.size := by decide
  have closed : ¬ r.2.hasNext = true := fun still => (isOpen.1 still).1 (by simp [history])
  exact ⟨few, count few, token, judged, Bool.eq_false_iff.2 closed⟩

end CursorState

end Pagewise
