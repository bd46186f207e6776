import Pagewise.Operation.Paging
import Pagewise.Proofs.Document.Access
import Pagewise.Proofs.Paging.IteratorRun
import Pagewise.Proofs.Paging.StreamRun

/-!
The documents that a run sends, by position. Each one is the input with its token member set to the
token of its position, or without that member where there is no token.
-/
namespace Pagewise

/-! ### Requests -/

namespace DocumentRequest

variable (op : PagedOperation) (ms : Members none)

theorem cursor_eq (body : Document) :
    CursorRequest.cursor (mk op body) = (body.member? op.inputToken.top).bind Path.nonNull :=
  Path.read_eq op.inputToken_top body

theorem withCursor_object (token : Option Document) :
    CursorRequest.withCursor (mk op (.object ms)) token =
      mk op (.object (ms.assign op.inputToken.top token)) := by
  rw [← Path.write_object op.inputToken_top token ms]
  rfl

theorem cursor_withCursor {token : Option Document} (present : ∀ v ∈ token, v.isNull = false) :
    CursorRequest.cursor (CursorRequest.withCursor (mk op (.object ms)) token) = token := by
  rw [withCursor_object, cursor_eq, Document.member?_object, Members.get?_assign, if_pos rfl]
  cases token with
  | none => rfl
  | some v => exact Path.nonNull_eq_some.2 ⟨rfl, present v rfl⟩

theorem withCursor_withCursor (token token' : Option Document) :
    CursorRequest.withCursor (CursorRequest.withCursor (mk op (.object ms)) token) token' =
      CursorRequest.withCursor (mk op (.object ms)) token' := by
  rw [withCursor_object, withCursor_object, withCursor_object, Members.assign_assign]

end DocumentRequest

/-! ### Runs -/

namespace PageIterator

variable {σ τ Req E Page C : Type} [Cursor C] [CursorRequest Req C] [CursorResponse Page C]

theorem pull_map (f : σ → τ) {fetch : Fetch σ Req E Page} {fetch' : Fetch τ Req E Page}
    (along : ∀ req s, fetch' req (f s) = ((fetch req s).1, f (fetch req s).2))
    (it : PageIterator Req C) (s : σ) :
    pull fetch' (it, f s) =
      ((pull fetch (it, s)).1, (pull fetch (it, s)).2.1, f (pull fetch (it, s)).2.2) := by
  cases live : it.isLive with
  | true => rw [pull_of_live fetch' (f s) live, pull_of_live fetch s live, along]
  | false => rw [pull_of_not_live fetch' (f s) live, pull_of_not_live fetch s live]

end PageIterator

namespace PagedOperation

variable {E : Type} (op : PagedOperation) (o : Outcomes E Document)

def pageOutcomes : Outcomes E DocumentPage := fun k =>
  ⟨(o k).polls, (o k).value.map fun body => ⟨op, body⟩⟩

theorem value_pageOutcomes {k : Nat} {page : DocumentPage}
    (h : (op.pageOutcomes o k).value = .ok page) :
    (o k).value = .ok page.body ∧ page.operation = op := by
  rw [pageOutcomes] at h
  cases held : (o k).value with
  | error e => simp [held, Except.map] at h
  | ok body =>
    simp only [held, Except.map, Except.ok.injEq] at h
    subst h
    exact ⟨rfl, rfl⟩

/-- A run over documents is one over pages, which remembers the bodies of its requests only. -/
theorem pulls_documents (input : Document) (n : Nat) :
    let r := steps (PageIterator.pull (.ofOutcomes (op.pageOutcomes o))) n
      (op.paginateBlocking input, [])
    steps (PageIterator.pull (op.fetch (.ofOutcomes o))) n (op.paginateBlocking input, []) =
      (r.1, r.2.1, r.2.2.map DocumentRequest.body) := by
  have along : ∀ (req : DocumentRequest) (sent : List DocumentRequest),
      op.fetch (.ofOutcomes o) req (sent.map DocumentRequest.body) =
        ((Fetch.ofOutcomes (op.pageOutcomes o) req sent).1,
          (Fetch.ofOutcomes (op.pageOutcomes o) req sent).2.map DocumentRequest.body) := by
    intro req sent
    simp only [fetch, Fetch.comap, Fetch.map, Fetch.ofOutcomes, List.length_map, List.map_append]
    rfl
  exact steps_map (fun x : PageIterator DocumentRequest Document × List DocumentRequest =>
      (x.1, x.2.map DocumentRequest.body))
    (fun x => PageIterator.pull_map (List.map DocumentRequest.body) along x.1 x.2) n
    (op.paginateBlocking input, [])

/-- The documents that `n` demands send. -/
def documents (input : Document) (n : Nat) : List Document :=
  ((op.pageOutcomes o).requests (DocumentRequest.mk op input) op.endBehavior n).map
    DocumentRequest.body

theorem sent_pulls (input : Document) (n : Nat) :
    (steps (PageIterator.pull (op.fetch (.ofOutcomes o))) n (op.paginateBlocking input, [])).2.2 =
      op.documents o input n := by
  rw [op.pulls_documents o input n]
  exact congrArg (List.map DocumentRequest.body)
    (PageIterator.follows_pulls (op.pageOutcomes o) (DocumentRequest.mk op input)
      op.endBehavior n).asked

theorem alongside_paginate (input : Document) :
    PageStream.Alongside (op.fetch (.ofOutcomes o)) (op.paginate input, [])
      (op.paginateBlocking input, []) :=
  PageStream.alongside_start _ (DocumentRequest.mk op input) op.endBehavior []

theorem exists_sent_polls (input : Document) (n : Nat) :
    let p := steps (PageStream.pollNext (op.fetch (.ofOutcomes o))) n (op.paginate input, [])
    ∃ m, (answersIn p.1).length ≤ m ∧ p.2.2 = op.documents o input m := by
  obtain ⟨m, enough, same⟩ := (op.alongside_paginate o input).exists_pulls n
  exact ⟨m, enough, same.trans (op.sent_pulls o input m)⟩

/-! ### By position -/

variable {op o} {ms : Members none}

theorem isNull_token {input v : Document} {k : Nat}
    (h : (op.pageOutcomes o).token (DocumentRequest.mk op input) k = some v) :
    v.isNull = false := by
  induction k with
  | zero => exact Path.isNull_of_read h
  | succ k ih =>
    rw [Outcomes.token] at h
    cases answer : (op.pageOutcomes o k).value with
    | error e =>
      rw [answer, tokenAfter] at h
      exact ih h
    | ok page =>
      rw [answer, tokenAfter] at h
      exact Path.isNull_of_read h

theorem token_succ {input : Document} {k : Nat}
    (reached : (op.pageOutcomes o).reaches (DocumentRequest.mk op input) op.endBehavior (k + 1) =
      true) :
    ∃ body, (o k).value = .ok body ∧
      (op.pageOutcomes o).token (DocumentRequest.mk op input) (k + 1) =
        op.outputToken.read body := by
  obtain ⟨page, answer⟩ := Outcomes.ok_of_reaches reached (Nat.lt_succ_self k)
  obtain ⟨held, rfl⟩ := op.value_pageOutcomes o answer
  refine ⟨page.body, held, ?_⟩
  rw [Outcomes.token, answer]
  rfl

theorem getElem?_documents {n k : Nat} {d : Document}
    (h : (op.documents o (.object ms) n)[k]? = some d) :
    (op.pageOutcomes o).reaches (DocumentRequest.mk op (.object ms)) op.endBehavior k = true ∧
      d = .object (ms.assign op.inputToken.top
        ((op.pageOutcomes o).token (DocumentRequest.mk op (.object ms)) k)) := by
  rw [documents, List.getElem?_map, Option.map_eq_some_iff] at h
  obtain ⟨req, here, rfl⟩ := h
  obtain ⟨reached, rfl⟩ := Outcomes.getElem?_requests here
  refine ⟨reached, ?_⟩
  rw [Outcomes.request, DocumentRequest.withCursor_object]

end PagedOperation

end Pagewise
