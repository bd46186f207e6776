import Pagewise.Proofs.Command.Runs
import Pagewise.Proofs.Model.Resolution

/-!
The page limit cuts a run to a prefix: of the pages said, of the calls made, and of the items said. It
comes from the arguments or else from the configuration, and in both zero is no limit.
-/
namespace Pagewise

def RunArguments.withLimit (run : RunArguments) (limit : Option Nat) : RunArguments :=
  { run with maxPages := limit }

namespace PreparedRun

theorem limitOf_eq (c : Config) (limit : Option Nat) :
    limitOf c limit =
      if limit.getD c.pageLimit = 0 then none else some (limit.getD c.pageLimit) := by
  match limit with
  | none => rfl
  | some 0 => rfl
  | some (n + 1) => rfl

variable {m : Model} {c : Config} {run : RunArguments} {r : PreparedRun}

theorem ofArguments_limit (ready : ofArguments m c run = .ok r) (limit : Option Nat) :
    ofArguments m c (run.withLimit limit) =
      .ok { r with maxPages := limitOf c limit } := by
  obtain ⟨⟨operation, input⟩, checked, ready⟩ := bind_eq_ok.1 ready
  obtain ⟨client, built, ready⟩ := bind_eq_ok.1 ready
  obtain rfl := pure_eq_ok.1 ready
  exact bind_eq_ok.2 ⟨(operation, input), checked, bind_eq_ok.2 ⟨client, built, rfl⟩⟩

end PreparedRun

namespace CommandLine

variable {c : CommandLine} {access : FileAccess} {run : RunArguments} {config : Config}
  {r : PreparedRun}

theorem prepare_eq_ok : c.prepare access run = .ok r ↔
    ∃ m, c.loadModel access = .ok m ∧ ∃ config, c.loadConfig access = .ok config ∧
      PreparedRun.ofArguments m config run = .ok r := by
  simp only [prepare, bind_eq_ok]

theorem prepare_limit (loaded : c.loadConfig access = .ok config)
    (ready : c.prepare access run = .ok r) (limit : Option Nat) :
    c.prepare access (run.withLimit limit) =
      .ok { r with maxPages := PreparedRun.limitOf config limit } := by
  obtain ⟨m, modelled, config', loaded', ready⟩ := prepare_eq_ok.1 ready
  obtain rfl : config = config' := Except.ok.inj (loaded.symm.trans loaded')
  exact prepare_eq_ok.2 ⟨m, modelled, config, loaded, PreparedRun.ofArguments_limit ready limit⟩

theorem maxPages_of_ready (loaded : c.loadConfig access = .ok config)
    (ready : c.prepare access run = .ok r) : r.maxPages = PreparedRun.limitOf config run.maxPages := by
  have same := prepare_limit loaded ready run.maxPages
  exact congrArg PreparedRun.maxPages (Except.ok.inj (ready.symm.trans same))

/-- The stream of a run, polled from its start, calls the operation once in every poll until it is
terminated, and it comes to that. A run without a limit says the good pages of these polls, numbered
from one, and fails as one of them does. Under a limit the run says the first of these pages, fails as
one of the first polls does, and leaves the host as these polls do. The items said under the limit are
those of its pages, by the same calls and with the same result. -/
theorem run_pages_limited (x : Exchange) (loaded : c.loadConfig access = .ok config)
    (ready : c.prepare access run = .ok r) :
    let n := run.maxPages.getD config.pageLimit
    let name := r.operation.name
    let whole := (c.doing (.pages (run.withLimit (some 0)))).run access x
    let cut := (c.doing (.pages run)).run access x
    let items := (c.doing (.items run)).run access x
    (r.polls x 0 = ([], r.operation.paginate r.input, x) ∧ ∀ k,
      let st := (r.polls x k).2.1
      let call := r.client.callWarned true name st.request.body (r.polls x k).2.2
      let next := r.poll (r.polls x k).2
      r.polls x (k + 1) = ((r.polls x k).1 ++ [next.1], next.2) ∧
        if st.isTerminated then
          next.1 = .ready none ∧ next.2.1.isTerminated = true ∧ next.2.2 = (r.polls x k).2.2
        else next.1 = .ready (some (r.operation.paged call.1)) ∧ next.2.2 = call.2) ∧
    ((∃ last, (r.polls x last).2.1.isTerminated = true) ∧
      (∀ last, (r.polls x last).2.1.isTerminated = true →
        whole.1.messages = ((pagesIn (answersIn (r.polls x last).1)).zipIdx 1).map
          (fun p => .page name p.2 p.1.body) ∧
        whole.2 = (r.polls x last).2.2) ∧
      ∀ e, whole.1.result = .error e ↔ ∃ k, r.Fails x k e) ∧
    (n = 0 → cut = whole) ∧
    (n ≠ 0 → cut.1.messages = whole.1.messages.take n ∧
      (∀ e, cut.1.result = .error e ↔ ∃ k < n, r.Fails x k e) ∧ cut.2 = (r.polls x n).2.2) ∧
    (r.operation.items.isSome = true → ∃ bodies : List Document,
      cut.1.messages = (bodies.zipIdx 1).map (fun p => .page name p.2 p.1) ∧
      items.1.messages = bodies.flatMap (fun body =>
        ((DocumentPage.items? ⟨r.operation, body⟩).getD []).map (.item name)) ∧
      items.1.result = cut.1.result ∧ items.2 = cut.2) := by
  intro n name whole cut items
  have whole_eq : whole = (.ofValues r.sayPage (r.unlimited.pages x).1, (r.unlimited.pages x).2) :=
    run_pages_of_ready (prepare_limit loaded ready (some 0)) x
  have cut_eq : cut = (.ofValues r.sayPage (r.pages x).1, (r.pages x).2) :=
    run_pages_of_ready ready x
  have limit : r.maxPages = if n = 0 then none else some n :=
    (maxPages_of_ready loaded ready).trans (PreparedRun.limitOf_eq config run.maxPages)
  refine ⟨⟨rfl, fun k => ⟨rfl, r.poll_polls x k⟩⟩, ⟨?_, ?_, ?_⟩, ?_, ?_, ?_⟩
  · obtain ⟨last, ended⟩ := r.exists_ended x
    exact ⟨last, (r.isTerminated_polls x last).2 ended⟩
  · intro last terminated
    have told := PreparedRun.told_unlimited ((r.isTerminated_polls x last).1 terminated)
    rw [whole_eq, r.answersIn_polls, r.polls_eq]
    refine ⟨?_, told.left⟩
    exact congrArg (fun values => (values.zipIdx 1).map fun p => r.sayPage p.2 p.1) told.values
  · intro e
    rw [whole_eq]
    exact PreparedRun.failed_unlimited_iff e
  · intro none_given
    rw [if_pos none_given] at limit
    have same : r = r.unlimited := by
      obtain ⟨operation, client, input, maxPages⟩ := r
      exact congrArg _ limit
    rw [cut_eq, whole_eq]
    exact same ▸ rfl
  · intro given
    rw [if_neg given] at limit
    rw [cut_eq, whole_eq, r.polls_eq]
    refine ⟨?_, (PreparedRun.reaches_of_limit x limit).failed_iff, ?_⟩
    · have said := Report.messages_take r.sayPage (r.unlimited.pages x).1.1 (r.pages x).1.2
        (r.unlimited.pages x).1.2 n
      rw [← PreparedRun.pages_of_limit limit] at said
      exact said
    · exact (PreparedRun.reaches_of_limit x limit).told.left
  · intro listed
    have items_eq : items = (.ofValues r.sayItem (r.items x).1, (r.items x).2) :=
      run_items_of_ready ready x listed
    rw [items_eq, cut_eq]
    refine ⟨(r.pages x).1.1.map DocumentPage.body, r.messages_pages x, r.messages_items x, ?_, ?_⟩
    · exact congrArg (fun a => a.1.2) (r.items_eq x)
    · exact (congrArg Prod.snd (r.items_eq x) :)

/-! ### Two pages, and then a refusal -/

def twoPages : Exchange := .ofAnswers
  [.reply ⟨200, [], "\x7b\"n\":[\"a\",\"b\"],\"t\":\"2\"\x7d".toUTF8.toList, none⟩,
    .reply ⟨200, [], "\x7b\"n\":[\"c\"],\"t\":\"3\"\x7d".toUTF8.toList, none⟩,
    .reply ⟨400, [], [], none⟩] (.connection "closed")

def pageTexts : List String :=
  ["\x7b\"body\":\x7b\"n\":[\"a\",\"b\"],\"t\":\"2\"\x7d,\"operation\":\"List\",\"page\":1,\"type\":\"PAGE\"\x7d",
    "\x7b\"body\":\x7b\"n\":[\"c\"],\"t\":\"3\"\x7d,\"operation\":\"List\",\"page\":2,\"type\":\"PAGE\"\x7d"]

def itemTexts : List String :=
  ["\x7b\"item\":\"a\",\"operation\":\"List\",\"type\":\"ITEM\"\x7d",
    "\x7b\"item\":\"b\",\"operation\":\"List\",\"type\":\"ITEM\"\x7d"]

def inputTexts : List String := ["\x7b\x7d", "\x7b\"t\":\"2\"\x7d", "\x7b\"t\":\"3\"\x7d"]

theorem listing_polled :
    ∃ r, (listing "config").prepare listingFiles firstPage = .ok r ∧
      r.operation.items.isSome = true ∧ (r.polls twoPages 3).2.1.isTerminated = true ∧
      ((pagesIn (answersIn (r.polls twoPages 3).1)).zipIdx 1).map (fun p =>
        (Message.page r.operation.name p.2 p.1.body).toDocument.compact) = pageTexts ∧
      ((pagesIn (answersIn (r.polls twoPages 3).1)).take 1).flatMap (fun page =>
        ((DocumentPage.items? ⟨r.operation, page.body⟩).getD []).map fun item =>
          (Message.item r.operation.name item).toDocument.compact) = itemTexts ∧
      errorsIn (answersIn (r.polls twoPages 1).1) = [] ∧
      errorsIn (answersIn (r.polls twoPages 3).1) = [.status 400 ""] ∧
      (r.polls twoPages 1).2.2.sent.map HttpRequest.body = inputTexts.take 1 ∧
      (r.polls twoPages 3).2.2.sent.map HttpRequest.body = inputTexts :=
  exists_eq_ok (by decide +kernel)

theorem bodies_of_pages {name : String} {bodies bodies' : List Document}
    (same : (bodies.zipIdx 1).map (fun p => Message.page name p.2 p.1) =
      (bodies'.zipIdx 1).map (fun p => Message.page name p.2 p.1)) : bodies = bodies' := by
  let body : Message → Document
    | .page _ _ body => body
    | _ => .null
  have found (l : List Document) :
      ((l.zipIdx 1).map (fun p => Message.page name p.2 p.1)).map body = l := by
    rw [List.map_map]
    exact List.zipIdx_map_fst 1 l
  rw [← found bodies, same, found]

/-- Without a limit the listing says two pages and fails with the third; its first page is said with
success, by the first call alone, and so are the items of that page. -/
theorem listing_limited :
    let whole := ((listing "config").doing (.pages (firstPage.withLimit (some 0)))).run
      listingFiles twoPages
    let cut := ((listing "config").doing (.pages firstPage)).run listingFiles twoPages
    let items := ((listing "config").doing (.items firstPage)).run listingFiles twoPages
    ∃ config r, (listing "config").loadConfig listingFiles = .ok config ∧
      (listing "config").prepare listingFiles firstPage = .ok r ∧
      r.operation.items.isSome = true ∧
      (whole.1.texts = pageTexts ∧ whole.1.result = .error (.status 400 "") ∧
        whole.2.sent.map HttpRequest.body = inputTexts) ∧
      (cut.1.texts = pageTexts.take 1 ∧ cut.1.result = .ok () ∧
        cut.2.sent.map HttpRequest.body = inputTexts.take 1) ∧
      items.1.texts = itemTexts ∧ items.1.result = .ok () ∧
        items.2.sent.map HttpRequest.body = inputTexts.take 1 := by
  obtain ⟨r, ready, listed, terminated, pages, page_items, sound, failed, asked_once, asked⟩ :=
    listing_polled
  obtain ⟨_, _, config, loaded, _⟩ := prepare_eq_ok.1 ready
  have one : firstPage.maxPages.getD config.pageLimit = 1 := rfl
  obtain ⟨_, ⟨_, told, fails⟩, _, limited, flattened⟩ := run_pages_limited twoPages loaded ready
  rw [one] at limited
  obtain ⟨said, left⟩ := told 3 terminated
  obtain ⟨first, fails_first, left_first⟩ := limited Nat.one_ne_zero
  obtain ⟨bodies, paged, itemized, same_result, same_left⟩ := flattened listed
  refine ⟨config, r, loaded, ready, listed, ?_⟩
  -- From here on the three runs are what has been said of them.
  generalize ((listing "config").doing (.pages (firstPage.withLimit (some 0)))).run
    listingFiles twoPages = whole at *
  generalize ((listing "config").doing (.pages firstPage)).run listingFiles twoPages = cut at *
  generalize ((listing "config").doing (.items firstPage)).run listingFiles twoPages = items at *
  have succeeds : cut.1.result = .ok () := by
    cases ended : cut.1.result with
    | ok _ => rfl
    | error e =>
      have among := (r.exists_fails_iff twoPages 1 e).1 ((fails_first e).1 ended)
      rw [sound] at among
      cases among
  have these : bodies = ((pagesIn (answersIn (r.polls twoPages 3).1)).take 1).map
      DocumentPage.body := by
    refine bodies_of_pages (paged.symm.trans (first.trans ?_))
    rw [said, List.zipIdx_map, List.map_map]
    exact (Report.messages_take r.sayPage _ (.ok ()) (.ok ()) 1).symm
  refine ⟨⟨?_, ?_, ?_⟩, ⟨?_, succeeds, ?_⟩, ?_, same_result.trans succeeds, ?_⟩
  · rw [Report.texts, said, List.map_map]
    exact pages
  · have among : .status 400 "" ∈ errorsIn (answersIn (r.polls twoPages 3).1) := by
      rw [failed]
      exact List.mem_cons_self
    obtain ⟨k, _, failing⟩ := (r.exists_fails_iff twoPages 3 _).2 among
    exact (fails _).2 ⟨k, failing⟩
  · rw [left]
    exact asked
  · rw [Report.texts, first, said, ← pages, List.map_take, List.map_map]
    rfl
  · rw [left_first]
    exact asked_once
  · rw [Report.texts, itemized, these, ← page_items, List.map_flatMap, List.flatMap_map]
    simp only [List.map_map]
    rfl
  · rw [same_left, left_first]
    exact asked_once

end CommandLine

end Pagewise
