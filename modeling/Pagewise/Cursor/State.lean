import Pagewise.Cursor.EndBehavior

/-!
The state of one run: the token to send next, whether there is a next page, and how many pages there
have been. Main statements: what advancing does to each of the three.
-/
namespace Pagewise

structure CursorState (C : Type) where
  cursor : Option C
  hasNext : Bool
  /-- Pages so far, as far as 64 bits hold them. -/
  count : UInt64

namespace CursorState

variable {C : Type}

def start (cursor : Option C) : CursorState C := ⟨cursor, true, 0⟩

def pages (s : CursorState C) : Nat := s.count.toNat

def markDone (s : CursorState C) : CursorState C := { s with hasNext := false }

def request {Req : Type} [CursorRequest Req C] (s : CursorState C) (initial : Req) : Req :=
  CursorRequest.withCursor initial s.cursor

def verdict {Page : Type} [Cursor C] [CursorResponse Page C] (behavior : EndBehavior)
    (page : Page) (s : CursorState C) : Verdict :=
  behavior.decide s.cursor (CursorResponse.nextCursor page) (CursorResponse.memberFlag page)

/-- Record a fetched page. It works on after the end, which it never undoes. -/
def advance {Page : Type} [Cursor C] [CursorResponse Page C] (behavior : EndBehavior)
    (page : Page) (s : CursorState C) : Verdict × CursorState C :=
  let verdict := s.verdict behavior page
  let next : CursorState C := ⟨CursorResponse.nextCursor page, s.hasNext, s.count + 1⟩
  (verdict, if verdict = .stop then next.markDone else next)

section

variable {Page : Type} [Cursor C] [CursorResponse Page C]

@[simp] theorem cursor_advance (behavior : EndBehavior) (page : Page) (s : CursorState C) :
    (s.advance behavior page).2.cursor = CursorResponse.nextCursor page := by
  simp only [advance]; split <;> rfl

@[simp] theorem pages_advance (behavior : EndBehavior) (page : Page) (s : CursorState C) :
    (s.advance behavior page).2.pages = (s.pages + 1) % UInt64.size := by
  simp only [advance]; split <;> exact UInt64.toNat_add s.count 1

@[simp] theorem fst_advance (behavior : EndBehavior) (page : Page) (s : CursorState C) :
    (s.advance behavior page).1 = s.verdict behavior page := rfl

theorem hasNext_advance (behavior : EndBehavior) (page : Page) (s : CursorState C) :
    (s.advance behavior page).2.hasNext =
      (s.hasNext && decide (s.verdict behavior page = .proceed)) := by
  simp only [advance]
  cases s.verdict behavior page <;> simp [markDone]

end

end CursorState

end Pagewise
