import Pagewise.Command.Task
import Pagewise.Proofs.Http.Calls
import Pagewise.Proofs.Paging.UntilError

/-!
What a prepared run reports. Its pages are those of the first pulls of the iterator that its stream
refines: as many as the limit says, or else all there are. Its items are those of the same pages, with
the same calls and the same result.
-/
namespace Pagewise

theorem Report.messages_take {α : Type} (say : Nat → α → Message) (values : List α)
    (result result' : Except Error Unit) (n : Nat) :
    (ofValues say (values.take n, result)).messages =
      (ofValues say (values, result')).messages.take n := by
  have numbered : (values.take n).zipIdx 1 = (values.zipIdx 1).take n := by
    apply List.ext_getElem?
    intro i
    simp only [List.getElem?_take, List.getElem?_zipIdx]
    split <;> rfl
  rw [ofValues, numbered, List.map_take, ofValues]

namespace PreparedRun

variable (r : PreparedRun) (x : Exchange)

def poll (p : PageStream DocumentRequest Document Error DocumentPage × Exchange) :
    Poll (Option (Except Error DocumentPage)) ×
      (PageStream DocumentRequest Document Error DocumentPage × Exchange) :=
  PageStream.pollNext
    (r.operation.pages (r.client.fetcherWarned true r.operation.name)).fetch p

/-- Polls of the stream of a run from its start. -/
def polls (n : Nat) : List (Poll (Option (Except Error DocumentPage))) ×
    (PageStream DocumentRequest Document Error DocumentPage × Exchange) :=
  steps r.poll n (r.start x)

def pulls (n : Nat) : List (Option (Except Error DocumentPage)) ×
    (PageIterator DocumentRequest Document × Exchange) :=
  steps (PageIterator.pull
      (r.operation.pages (r.client.fetcherWarned true r.operation.name)).fetch) n
    (r.operation.paginateBlocking r.input, x)

theorem polls_eq (n : Nat) :
    r.polls x n =
      ((r.pulls x n).1.map .ready, .ofIterator (r.pulls x n).2.1 none, (r.pulls x n).2.2) :=
  PageStream.polls_of_prompt _ (fun _ _ => rfl) (r.operation.paginateBlocking r.input) x n

theorem answersIn_polls (n : Nat) : answersIn (r.polls x n).1 = (r.pulls x n).1 := by
  rw [polls_eq]
  exact answersIn_map_ready _

theorem isTerminated_polls (n : Nat) :
    (r.polls x n).2.1.isTerminated = true ↔ (r.pulls x n).2.1.isLive = false := by
  rw [polls_eq, PageStream.isTerminated_iff]
  exact and_iff_right rfl

theorem poll_ofIterator (it : PageIterator DocumentRequest Document) :
    r.poll (.ofIterator it none, x) =
      if it.isLive then
        let call := r.client.callWarned true r.operation.name it.request.body x
        (.ready (some (r.operation.paged call.1)),
          .ofIterator (it.record (r.operation.paged call.1)) none, call.2)
      else (.ready none, .ofIterator it.settled none, x) := by
  cases live : it.isLive with
  | false => exact PageStream.pollNext_of_not_live _ x live
  | true => exact PageStream.pollNext_of_live _ x live

/-- The stream calls the operation once in every poll, until it is terminated. -/
theorem poll_polls (n : Nat) :
    let st := (r.polls x n).2.1
    let call := r.client.callWarned true r.operation.name st.request.body (r.polls x n).2.2
    let next := r.poll (r.polls x n).2
    if st.isTerminated then
      next.1 = .ready none ∧ next.2.1.isTerminated = true ∧ next.2.2 = (r.polls x n).2.2
    else next.1 = .ready (some (r.operation.paged call.1)) ∧ next.2.2 = call.2 := by
  rw [polls_eq]
  obtain ⟨results, it, y⟩ := r.pulls x n
  simp only [poll_ofIterator, PageStream.isTerminated_iff, PageStream.inFlight_ofIterator,
    PageStream.iterator_ofIterator, true_and]
  cases live : it.isLive with
  | false =>
    obtain ⟨_, _, settled, _⟩ := PageIterator.eq_of_begun_eq it.begun_settled
    exact ⟨rfl, ⟨rfl, settled.trans live⟩, rfl⟩
  | true => exact ⟨rfl, rfl⟩

def Fails (k : Nat) (e : Error) : Prop := (r.poll (r.polls x k).2).1 = .ready (some (.error e))

theorem mem_pulls (n : Nat) (e : Error) :
    some (.error e) ∈ (r.pulls x n).1 ↔ ∃ k < n, r.Fails x k e := by
  have polled : .ready (some (.error e)) ∈ (r.polls x n).1 ↔ ∃ k < n, r.Fails x k e :=
    mem_steps r.poll
  rw [← polled, polls_eq]
  simp

theorem exists_fails_iff (n : Nat) (e : Error) :
    (∃ k < n, r.Fails x k e) ↔ e ∈ errorsIn (answersIn (r.polls x n).1) := by
  rw [← mem_pulls, mem_errorsIn, answersIn_polls]

theorem exists_ended : ∃ last, (r.pulls x last).2.1.isLive = false :=
  PageIterator.exists_ended (r.operation.pages (r.client.fetcherWarned true r.operation.name))
    (r.operation.paginateBlocking r.input) x

/-- The pulls that a run comes to: those within its limit, or else as many as end it. -/
def Reaches (n : Nat) : Prop :=
  PageIterator.Covers (r.operation.pages (r.client.fetcherWarned true r.operation.name)).fetch
    (r.operation.paginateBlocking r.input, x) n r.maxPages

variable {r} in
theorem reaches_of_limit {n : Nat} (limited : r.maxPages = some n) : r.Reaches x n := by
  rw [Reaches, limited]
  exact .limit

variable {r x} in
theorem reaches_of_ended {n : Nat} (unlimited : r.maxPages = none)
    (ended : (r.pulls x n).2.1.isLive = false) : r.Reaches x n := by
  rw [Reaches, unlimited]
  exact .whole ended

theorem exists_reaches : ∃ n, r.Reaches x n := by
  cases limited : r.maxPages with
  | some n => exact ⟨n, reaches_of_limit x limited⟩
  | none =>
    obtain ⟨last, ended⟩ := r.exists_ended x
    exact ⟨last, reaches_of_ended limited ended⟩

variable {r x} in
theorem Reaches.told {n : Nat} (h : r.Reaches x n) :
    Told (r.pulls x n) (r.pages x).1 (r.pages x).2 :=
  PageStream.told_awaited (PageStream.alongside_start _ _ _ x) rfl h

variable {r x} in
theorem Reaches.failed_iff {n : Nat} (h : r.Reaches x n) (e : Error) :
    (r.pages x).1.2 = .error e ↔ ∃ k < n, r.Fails x k e :=
  (h.told.failed e).trans (r.mem_pulls x n e)

/-! ### Runs without a limit -/

/-- The same run without a limit. -/
def unlimited (r : PreparedRun) : PreparedRun := { r with maxPages := none }

section

variable {r x}

theorem told_unlimited {last : Nat} (ended : (r.pulls x last).2.1.isLive = false) :
    Told (r.pulls x last) (r.unlimited.pages x).1 (r.unlimited.pages x).2 :=
  (reaches_of_ended (r := r.unlimited) rfl ended).told

theorem failed_unlimited_iff (e : Error) :
    (r.unlimited.pages x).1.2 = .error e ↔ ∃ k, r.Fails x k e := by
  obtain ⟨last, ended⟩ := r.exists_ended x
  constructor
  · intro failed
    obtain ⟨k, _, fails⟩ := (r.mem_pulls x last e).1 (((told_unlimited ended).failed e).1 failed)
    exact ⟨k, fails⟩
  · rintro ⟨k, fails⟩
    have later := told_unlimited (PageIterator.ended_add ended (k + 1))
    exact (later.failed e).2 ((r.mem_pulls x _ e).2 ⟨k, by omega, fails⟩)

/-- A limit cuts the pages of the run without one. -/
theorem pages_of_limit {n : Nat} (limited : r.maxPages = some n) :
    (r.pages x).1.1 = (r.unlimited.pages x).1.1.take n := by
  obtain ⟨last, ended⟩ := r.exists_ended x
  rw [(reaches_of_limit x limited).told.values, (told_unlimited ended).values]
  exact PageIterator.pagesIn_pulls ended n

end

/-! ### What is said -/

theorem operation_of_mem_pages {page : DocumentPage} (among : page ∈ (r.pages x).1.1) :
    page.operation = r.operation := by
  obtain ⟨n, reached⟩ := r.exists_reaches x
  rw [reached.told.values] at among
  have all : ∀ page : DocumentPage, page ∈ pagesIn (r.pulls x n).1 →
      page.operation = r.operation := by
    refine PageIterator.pulls_induction _ (P := fun _ results _ _ =>
      ∀ page : DocumentPage, page ∈ pagesIn results → page.operation = r.operation) ?_ ?_ ?_ n
    · simp [pagesIn]
    · intro n results it y before _ page among
      rw [pagesIn_append, List.mem_append] at among
      rcases among with among | among
      · exact before page among
      · rw [OperationClient.fetch_pages_warned] at among
        cases called : (r.client.callWarned true r.operation.name it.request.body y).1 with
        | error e => simp [called, PagedOperation.paged, Except.map] at among
        | ok body =>
          obtain rfl : page = ⟨r.operation, body⟩ := by
            simpa [called, PagedOperation.paged, Except.map] using among
          rfl
    · intro n results it y before _ page among
      exact before page (by simpa using among)
  exact all page among

/-- The items are those of the pages, and come from the same calls. -/
theorem items_eq :
    r.items x = (((r.pages x).1.1.flatMap fun page => (DocumentPage.items? page).getD [],
      (r.pages x).1.2), (r.pages x).2) := by
  rw [items, Polled.untilError_items]
  rfl

def sayPage (n : Nat) (page : DocumentPage) : Message := .page r.operation.name n page.body

def sayItem (_ : Nat) (item : Document) : Message := .item r.operation.name item

theorem messages_pages :
    (Report.ofValues r.sayPage (r.pages x).1).messages =
      (((r.pages x).1.1.map DocumentPage.body).zipIdx 1).map
        fun p => .page r.operation.name p.2 p.1 := by
  rw [Report.ofValues, List.zipIdx_map, List.map_map]
  rfl

theorem messages_items :
    (Report.ofValues r.sayItem (r.items x).1).messages =
      ((r.pages x).1.1.map DocumentPage.body).flatMap fun body =>
        ((DocumentPage.items? ⟨r.operation, body⟩).getD []).map (.item r.operation.name) := by
  have named (l : List Document) :
      (l.zipIdx 1).map (fun p => r.sayItem p.2 p.1) = l.map (.item r.operation.name) := by
    conv => rhs; rw [← List.zipIdx_map_fst 1 l, List.map_map]
    rfl
  rw [Report.ofValues, named, items_eq, List.map_flatMap, List.flatMap_map, List.flatMap_def,
    List.flatMap_def]
  refine congrArg List.flatten (List.map_congr_left fun page among => ?_)
  rw [← r.operation_of_mem_pages x among]

end PreparedRun

/-! ### Command lines -/

namespace CommandLine

def doing (c : CommandLine) (task : Task) : CommandLine := { c with task := task }

variable {c : CommandLine} {access : FileAccess} {run : RunArguments} {r : PreparedRun}
  (ready : c.prepare access run = .ok r) (x : Exchange)
include ready

theorem reportPages_of_ready :
    c.reportPages access run x = (.ofValues r.sayPage (r.pages x).1, (r.pages x).2) := by
  rw [reportPages, ready]
  rfl

theorem run_pages_of_ready :
    (c.doing (.pages run)).run access x = (.ofValues r.sayPage (r.pages x).1, (r.pages x).2) :=
  reportPages_of_ready ready x

theorem reportItems_of_ready (listed : r.operation.items.isSome = true) :
    c.reportItems access run x = (.ofValues r.sayItem (r.items x).1, (r.items x).2) := by
  obtain ⟨path, held⟩ := Option.isSome_iff_exists.1 listed
  rw [reportItems, ready]
  simp only [held]
  rfl

theorem run_items_of_ready (listed : r.operation.items.isSome = true) :
    (c.doing (.items run)).run access x = (.ofValues r.sayItem (r.items x).1, (r.items x).2) :=
  reportItems_of_ready ready x listed

theorem reportItems_of_unlisted (unlisted : r.operation.items.isSome = false) :
    c.reportItems access run x =
      (.failure (.config ("Operation '" ++ r.operation.name ++ "' has no items member")), x) := by
  rw [reportItems, ready]
  simp only [Option.isSome_eq_false_iff.1 unlisted, if_true]

end CommandLine

/-! ### A listing of names -/

def Report.texts (said : Report) : List String := said.messages.map fun m => m.toDocument.compact

theorem exists_eq_ok {ε α : Type} {a : Except ε α} {P : α → Prop} [DecidablePred P]
    (h : a.toOption.any (fun b => decide (P b)) = true) : ∃ b, a = .ok b ∧ P b := by
  cases a with
  | error e => cases h
  | ok b => exact ⟨b, rfl, of_decide_eq_true h⟩

namespace CommandLine

/-- A model with one operation, whose input and output are one structure. Every record is the array of
its fields. -/
def listingText : String :=
  "[\"2\",\x7b\"List\":[\"operation\",[\"P\"],[\"P\"],\x7b\"smithy.api#paginated\":[\"t\",\"t\",\"n\"]\x7d]," ++
  "\"P\":[\"structure\",\x7b\"n\":[\"L\"],\"t\":[\"S\"]\x7d],\"L\":[\"list\",[\"S\"]],\"S\":[\"string\"]\x7d]"

def listingFiles : FileAccess
  | "model" => .ok listingText
  | "config" => .ok "\x7b\"endpoint\":\"http://[::1]\"\x7d"
  | "bell" => .ok "\x7b\"endpoint\":\"http://[::1]\",\"target_prefix\":\"\\a\"\x7d"
  | _ => .error .notFound

def listing (config : String) : CommandLine := ⟨some "model", some config, default, false, .validate⟩

def firstPage : RunArguments := ⟨"List", none, none, some 1⟩

end CommandLine

end Pagewise
