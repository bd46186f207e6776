import Pagewise.Proofs.Operation.Documents

/-!
What the end behavior promises of the documents that a run sends. A run asks for another page only
on account of the page before it, so the token of every document but the first is one that the end
behavior went on with.
-/
namespace Pagewise

/-! ### Verdicts -/

namespace EndBehavior

@[simp] theorem verdict_eq_proceed {go : Bool} : verdict go = .proceed ↔ go = true := by
  cases go <;> simp [verdict]

variable {used next : Option Document} {flag : String → Option Bool}

theorem decide_outputTokenEmpty :
    decide .outputTokenEmpty used next flag = .proceed ↔ ∃ v, next = some v ∧ v.isBlank = false := by
  rw [decide, verdict_eq_proceed]
  cases next with
  | none => simp
  | some v => simp [Cursor.isBlank]

theorem decide_identicalToken :
    decide .identicalToken used next flag = .proceed ↔
      ∃ v, next = some v ∧ ∀ w ∈ used, (w == v) = false := by
  rw [decide, verdict_eq_proceed]
  cases next with
  | none => simp
  | some v => cases used <;> simp [Cursor.same]

theorem decide_truncationMember {member : String} :
    decide (.truncationMember member) used next flag = .proceed ↔ flag member = some true := by
  rw [decide, verdict_eq_proceed, beq_iff_eq]

end EndBehavior

namespace Document

/-- A document says yes at a member path: it holds true there, or the word. -/
def SaysTrue (d : Document) (member : String) : Prop :=
  ∃ p, Path.parse member = .ok p ∧
    (d.Leads p.segments (.bool true) ∨ d.Leads p.segments (.string "true"))

theorem ne_of_isBlank_eq_false {d : Document} (h : d.isBlank = false) :
    d ≠ .null ∧ d ≠ .string "" ∧ d ≠ .array [] ∧ d ≠ .object .nil := by
  refine ⟨?_, ?_, ?_, ?_⟩ <;>
  · rintro rfl
    cases h

end Document

namespace DocumentPage

theorem flagOf_eq_true {v : Document} :
    flagOf v = some true ↔ v = .bool true ∨ v = .string "true" := by
  rw [flagOf.eq_def]
  split <;> simp_all

theorem memberFlag_eq_true {page : DocumentPage} {member : String} :
    page.memberFlag member = some true ↔ page.body.SaysTrue member := by
  rw [memberFlag, Document.SaysTrue]
  cases Path.parse member with
  | error e => simp
  | ok p =>
    simp only [Option.bind_eq_some_iff, Path.read_eq_some, flagOf_eq_true, Except.ok.injEq,
      exists_eq_left']
    constructor
    · rintro ⟨v, ⟨found, _⟩, rfl | rfl⟩
      · exact .inl found
      · exact .inr found
    · rintro (found | found)
      · exact ⟨_, ⟨found, nofun⟩, .inl rfl⟩
      · exact ⟨_, ⟨found, nofun⟩, .inr rfl⟩

end DocumentPage

namespace PagedOperation

variable {E : Type} {op : PagedOperation} {o : Outcomes E Document} {ms : Members none}

/-! ### What a fetch follows from -/

/-- A fetch that is reached follows from the page before it: the end behavior went on with the token
of that page. -/
theorem reaches_succ_iff {input : Document} {k : Nat} :
    (op.pageOutcomes o).reaches (DocumentRequest.mk op input) op.endBehavior (k + 1) = true ↔
      (op.pageOutcomes o).reaches (DocumentRequest.mk op input) op.endBehavior k = true ∧
      ∃ body, (o k).value = .ok body ∧
        op.endBehavior.decide ((op.pageOutcomes o).token (DocumentRequest.mk op input) k)
          (op.outputToken.read body) (DocumentPage.mk op body).memberFlag = .proceed := by
  rw [Outcomes.reaches_succ, Bool.and_eq_true, Outcomes.continues, pageOutcomes]
  refine and_congr_right fun _ => ?_
  cases (o k).value with
  | error e => simp [Except.map, goesOn]
  | ok body =>
    simp only [Except.map, goesOn, beq_iff_eq, Except.ok.injEq, exists_eq_left']
    rfl

theorem lt_length_documents_iff {input : Document} {n k : Nat} :
    k < (op.documents o input n).length ↔
      k < n ∧ (op.pageOutcomes o).reaches (DocumentRequest.mk op input) op.endBehavior k = true := by
  rw [documents, List.length_map, Outcomes.lt_length_requests_iff]

theorem token_member {n k : Nat} {d : Document}
    (h : (op.documents o (.object ms) n)[k]? = some d) :
    d.member? op.inputToken.top =
      (op.pageOutcomes o).token (DocumentRequest.mk op (.object ms)) k := by
  obtain ⟨_, rfl⟩ := getElem?_documents h
  rw [Document.member?_object, Members.get?_assign, if_pos rfl]

theorem token_member_succ {n k : Nat} {d : Document}
    (h : (op.documents o (.object ms) n)[k + 1]? = some d) :
    ∃ body, (o k).value = .ok body ∧ d.member? op.inputToken.top = op.outputToken.read body ∧
      op.endBehavior.decide ((op.pageOutcomes o).token (DocumentRequest.mk op (.object ms)) k)
        (d.member? op.inputToken.top) (DocumentPage.mk op body).memberFlag = .proceed := by
  obtain ⟨reached, _⟩ := getElem?_documents h
  obtain ⟨_, body, held, went⟩ := reaches_succ_iff.1 reached
  obtain ⟨body', held', token⟩ := token_succ reached
  obtain rfl : body = body' := Except.ok.inj (held.symm.trans held')
  have carried : d.member? op.inputToken.top = op.outputToken.read body :=
    (token_member h).trans token
  exact ⟨body, held, carried, carried ▸ went⟩

/-! ### The promise -/

/-- Documents sent as the end behavior promises, when as many answers were asked for as `demands`
says. The first is sent for any answer; a later one follows a page for its token or for its flag, and
carries the token of the page. -/
structure Obeys (op : PagedOperation) (o : Outcomes E Document) (demands : Nat)
    (sent : List Document) : Prop where
  first : 0 < demands → 0 < sent.length
  carried : ∀ k, ∀ d ∈ sent[k + 1]?, ∃ body, (o k).value = .ok body ∧
    ∀ v, d.member? op.inputToken.top = some v ↔ body.Leads op.outputToken.segments v ∧ v ≠ .null
  content : op.endBehavior = .outputTokenEmpty → ∀ k, ∀ d ∈ sent[k + 1]?,
    ∃ v, d.member? op.inputToken.top = some v ∧
      v ≠ .null ∧ v ≠ .string "" ∧ v ≠ .array [] ∧ v ≠ .object .nil
  change : op.endBehavior = .identicalToken → ∀ k, ∀ d ∈ sent[k]?, ∀ d' ∈ sent[k + 1]?,
    ∃ v, d'.member? op.inputToken.top = some v ∧ v ≠ .null ∧
      ∀ w ∈ d.member? op.inputToken.top, w ≠ v ∧ (w == v) = false
  no_token : op.endBehavior = .outputTokenEmpty ∨ op.endBehavior = .identicalToken →
    ∀ k body, (o k).value = .ok body → (∀ v, body.Leads op.outputToken.segments v → v = .null) →
      sent.length ≤ k + 1
  flag : ∀ member, op.endBehavior = .truncationMember member →
    ∀ k, k < sent.length → k + 1 < demands →
      (k + 1 < sent.length ↔ ∃ body, (o k).value = .ok body ∧ body.SaysTrue member)

theorem obeys_documents {demands n : Nat} (enough : demands ≤ n) :
    op.Obeys o demands (op.documents o (.object ms) n) := by
  refine ⟨?_, ?_, ?_, ?_, ?_, ?_⟩
  · intro demanded
    exact lt_length_documents_iff.2 ⟨Nat.lt_of_lt_of_le demanded enough, rfl⟩
  · intro k d later
    obtain ⟨body, held, token, _⟩ := token_member_succ later
    exact ⟨body, held, fun v => by rw [token, Path.read_eq_some]⟩
  · intro behavior k d later
    obtain ⟨_, _, _, went⟩ := token_member_succ later
    rw [behavior, EndBehavior.decide_outputTokenEmpty] at went
    obtain ⟨v, token, content⟩ := went
    exact ⟨v, token, Document.ne_of_isBlank_eq_false content⟩
  -- The token went on against the one used for the page, which is that of the document before.
  · intro behavior k d before d' later
    obtain ⟨body, _, carried, went⟩ := token_member_succ later
    rw [behavior, EndBehavior.decide_identicalToken, ← token_member before] at went
    obtain ⟨v, token, differs⟩ := went
    refine ⟨v, token, (Path.read_eq_some.1 (carried.symm.trans token)).2, fun w sent => ?_⟩
    exact ⟨Document.ne_of_beq_eq_false (differs w sent), differs w sent⟩
  -- A page without a token: neither end behavior goes on without one, so nothing follows.
  · intro behavior k body held absent
    rw [← Path.read_eq_none] at absent
    refine Nat.le_of_not_lt fun more => ?_
    obtain ⟨_, body', held', went⟩ := reaches_succ_iff.1 (lt_length_documents_iff.1 more).2
    obtain rfl : body = body' := Except.ok.inj (held.symm.trans held')
    rcases behavior with behavior | behavior
    · rw [behavior, EndBehavior.decide_outputTokenEmpty, absent] at went
      simp at went
    · rw [behavior, EndBehavior.decide_identicalToken, absent] at went
      simp at went
  · intro member behavior k here more
    obtain ⟨_, reached⟩ := lt_length_documents_iff.1 here
    rw [lt_length_documents_iff, reaches_succ_iff, behavior]
    simp only [EndBehavior.decide_truncationMember, DocumentPage.memberFlag_eq_true]
    rw [behavior] at reached
    constructor
    · exact fun h => h.2.2
    · exact fun h => ⟨by omega, reached, h⟩

/-- Over any pages a run sends documents as its end behavior promises, pulled or polled as often as
one likes. -/
theorem sent_obeys (op : PagedOperation) (ms : Members none) (o : Outcomes E Document) (n : Nat) :
    op.Obeys o n (steps (PageIterator.pull (op.fetch (.ofOutcomes o))) n
      (op.paginateBlocking (.object ms), [])).2.2 ∧
    let p := steps (PageStream.pollNext (op.fetch (.ofOutcomes o))) n (op.paginate (.object ms), [])
    op.Obeys o (answersIn p.1).length p.2.2 := by
  constructor
  · rw [op.sent_pulls o (.object ms) n]
    exact obeys_documents (Nat.le_refl n)
  · intro p
    obtain ⟨m, enough, polled⟩ := op.exists_sent_polls o (.object ms) n
    have sent : p.2.2 = op.documents o (.object ms) m := polled
    rw [sent]
    exact obeys_documents enough

end PagedOperation

end Pagewise
