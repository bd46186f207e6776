import Pagewise.Cursor.State

/-!
Where pages come from. A fetch answers a request from a state, after a number of polls in which the
answer is not there yet. The pages of a fetcher run out: each one leaves less to come, so a run ends
at the latest with an error. A script of prepared answers is a fetcher.
-/
namespace Pagewise

/-- A value that becomes available after some polls. -/
structure Delayed (α : Type) where
  polls : Nat
  value : α

inductive Poll (α : Type) where
  | pending
  | ready (value : α)
  deriving DecidableEq, Repr

def Delayed.poll {α : Type} (d : Delayed α) : Poll α × Option (Delayed α) :=
  match d.polls with
  | 0 => (.ready d.value, none)
  | n + 1 => (.pending, some { d with polls := n })

/-- Answers to requests, each given from a state and leaving another one. -/
abbrev Fetch (σ Req E Page : Type) := Req → σ → Delayed (Except E Page) × σ

namespace Fetch

variable {σ Req E Page Out : Type}

def map (f : Page → Out) (fetch : Fetch σ Req E Page) : Fetch σ Req E Out := fun req s =>
  let r := fetch req s
  (⟨r.1.polls, r.1.value.map f⟩, r.2)

def comap {In : Type} (f : In → Req) (fetch : Fetch σ Req E Page) : Fetch σ In E Page :=
  fun req s => fetch (f req) s

end Fetch

/-- A fetch whose pages run out. -/
structure Fetcher (σ Req E Page : Type) where
  fetch : Fetch σ Req E Page
  left : σ → Nat
  left_fetch : ∀ (req : Req) (s : σ) (page : Page),
    (fetch req s).1.value = .ok page → left (fetch req s).2 < left s

namespace Fetcher

variable {σ Req E Page Out : Type}

def map (f : Page → Out) (F : Fetcher σ Req E Page) : Fetcher σ Req E Out where
  fetch := F.fetch.map f
  left := F.left
  left_fetch req s page h := by
    simp only [Fetch.map] at h ⊢
    cases hv : (F.fetch req s).1.value with
    | error e => simp [hv, Except.map] at h
    | ok p => exact F.left_fetch req s p hv

def comap {In : Type} (f : In → Req) (F : Fetcher σ Req E Page) : Fetcher σ In E Page where
  fetch := F.fetch.comap f
  left := F.left
  left_fetch req s page h := F.left_fetch (f req) s page h

end Fetcher

structure Script (Req E Page : Type) where
  answers : List (Delayed (Except E Page))
  sent : List Req

namespace Script

variable {Req E Page : Type}

def ofAnswers (answers : List (Delayed (Except E Page))) : Script Req E Page := ⟨answers, []⟩

def requests (s : Script Req E Page) : List Req := s.sent.reverse

/-- The answers in order; after the last one every fetch fails with `exhausted`. -/
def fetcher (exhausted : E) : Fetcher (Script Req E Page) Req E Page where
  fetch req s :=
    match s.answers with
    | [] => (⟨0, .error exhausted⟩, ⟨[], req :: s.sent⟩)
    | a :: rest => (a, ⟨rest, req :: s.sent⟩)
  left s := s.answers.length
  left_fetch req s page h := by
    split at h
    · simp at h
    · next hs => simp [hs]

end Script

end Pagewise
