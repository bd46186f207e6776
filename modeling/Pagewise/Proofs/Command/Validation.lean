import Pagewise.Proofs.Command.Runs
import Pagewise.Proofs.Model.Listing

/-!
Validation agrees with runs. What it says of an operation is what a run of the operation, with no
other arguments, comes to before it has a client: that there is nothing wrong, or the error that the
run ends with.
-/
namespace Pagewise

def RunArguments.only (operation : String) : RunArguments := ⟨operation, none, none, none⟩

/-- What keeps a run from having its operation and its input, if anything. -/
def PreparedRun.fault? (m : Model) (c : Config) (run : RunArguments) : Option Error :=
  match operationAndInput m c run with
  | .ok _ => none
  | .error e => some e

theorem PreparedRun.fault?_eq_none {m : Model} {c : Config} {run : RunArguments} :
    fault? m c run = none ↔ ∃ ready, operationAndInput m c run = .ok ready := by
  rw [fault?]
  cases operationAndInput m c run <;> simp

theorem PreparedRun.fault?_eq_some {m : Model} {c : Config} {run : RunArguments} {e : Error} :
    fault? m c run = some e ↔ operationAndInput m c run = .error e := by
  rw [fault?]
  cases operationAndInput m c run <;> simp

theorem Config.fault?_eq {m : Model} {id : String} {shape : OperationShape} (c : Config)
    (held : (id, .operation shape) ∈ m.shapes.entries) :
    Config.fault? (some c) m id = PreparedRun.fault? m c (.only id) := by
  rw [Config.fault?, PreparedRun.fault?, PreparedRun.operationAndInput]
  -- A look-up that fails does so for both; else it leads back to the ID, and to the same settings.
  cases found : m.findOperation id with
  | error e =>
    have unresolved : Config.resolve (some c) m id = .error e := by
      rw [Config.resolve, Model.resolve, found]
      rfl
    simp only [RunArguments.only, found, unresolved, bind, Except.bind]
  | ok id' =>
    obtain rfl := Model.findOperation_eq_ok held found
    simp only [RunArguments.only, found, bind, Except.bind]
    cases Config.resolve (some c) m id' with
    | error e => rfl
    | ok operation =>
      simp only [Option.bind, PreparedRun.inputOf]
      cases c.pageSizeOf id' with
      | none => rfl
      | some size =>
        cases prepared : operation.prepareInput .null (some size) with
        | error e => simp [prepared, Except.map]
        | ok input => simp [prepared, Except.map, pure, Except.pure]

namespace CommandLine

variable {c : CommandLine} {access : FileAccess} {m : Model} {config : Config}

theorem loadConfig_eq_ok :
    c.loadConfig access = .ok config ↔ c.loadConfig? access = .ok (some config) := by
  rw [loadConfig, bind_eq_ok]
  constructor
  · rintro ⟨found, loaded, h⟩
    cases found with
    | none => cases h
    | some config' =>
      obtain rfl := pure_eq_ok.1 h
      exact loaded
  · exact fun loaded => ⟨some config, loaded, rfl⟩

theorem prepare_of_fault (modelled : c.loadModel access = .ok m)
    (loaded : c.loadConfig access = .ok config) {run : RunArguments} {e : Error}
    (fault : PreparedRun.operationAndInput m config run = .error e) :
    c.prepare access run = .error e := by
  rw [prepare, modelled]
  simp only [bind, Except.bind, loaded, PreparedRun.ofArguments, fault]

theorem run_validate (x : Exchange) {entries : List PaginatedEntry}
    (modelled : c.loadModel access = .ok m) (loaded : c.loadConfig access = .ok config)
    (listed : m.paginatedOperations = .ok entries) :
    (c.doing .validate).run access x = (verdicts (some config) m entries, x) := by
  change (c.reportValidation access, x) = _
  rw [reportValidation]
  simp only [modelled, loadConfig_eq_ok.1 loaded, listed, bind, Except.bind, pure, Except.pure]

theorem verdicts_eq {entries : List PaginatedEntry} {fault : String → Option Error}
    (faults : ∀ entry ∈ entries, Config.fault? (some config) m entry.operation =
      fault entry.operation) :
    let failures := (entries.filter fun entry => (fault entry.operation).isSome).length
    let total := toString entries.length
    verdicts (some config) m entries =
      ⟨entries.map (fun entry => .validation entry.operation (fault entry.operation)) ++
        (if failures = 0 then [.log (total ++ " paginated operations are valid")] else []),
      if failures = 0 then .ok ()
      else .error (.config
        (toString failures ++ " of " ++ total ++ " paginated operations are invalid"))⟩ := by
  intro failures total
  have said : entries.map (fun entry => Message.validation entry.operation
      (Config.fault? (some config) m entry.operation)) =
      entries.map (fun entry => .validation entry.operation (fault entry.operation)) :=
    List.map_congr_left fun entry h => by rw [faults entry h]
  have counted : entries.filter (fun entry =>
      (Config.fault? (some config) m entry.operation).isSome) =
      entries.filter (fun entry => (fault entry.operation).isSome) :=
    List.filter_congr fun entry h => by rw [faults entry h]
  rw [verdicts, said, counted]
  by_cases none_failed : failures = 0
  · simp only [if_pos none_failed]
    exact if_pos none_failed
  · simp only [if_neg none_failed, List.append_nil]
    exact if_neg none_failed

/-- Validation says, once for every paged operation and in order of their IDs, what a run of it alone
comes to: that it has its operation and input, or the error that it ends with. It fails if it has said
so of any, and counts them. -/
theorem validation_agrees (c : CommandLine) (access : FileAccess) (x : Exchange)
    {entries : List PaginatedEntry}
    (modelled : c.loadModel access = .ok m) (loaded : c.loadConfig access = .ok config)
    (listed : m.paginatedOperations = .ok entries) :
    let report := (c.doing .validate).run access x
    let fault := fun id => PreparedRun.fault? m config (.only id)
    let failures := (entries.filter fun entry => (fault entry.operation).isSome).length
    let total := toString entries.length
    entries.Pairwise (fun entry later => entry.operation < later.operation) ∧
    report.1.messages =
      entries.map (fun entry => .validation entry.operation (fault entry.operation)) ++
        (if failures = 0 then [.log (total ++ " paginated operations are valid")] else []) ∧
    report.1.result =
      (if failures = 0 then .ok ()
      else .error (.config
        (toString failures ++ " of " ++ total ++ " paginated operations are invalid"))) ∧
    report.2 = x ∧
    ∀ entry ∈ entries,
      (fault entry.operation = none ↔ ∃ ready,
        PreparedRun.operationAndInput m config (.only entry.operation) = .ok ready) ∧
      (∀ e, fault entry.operation = some e →
        (c.doing (.pages (.only entry.operation))).run access x = (.failure e, x) ∧
        (c.doing (.items (.only entry.operation))).run access x = (.failure e, x)) ∧
      (Message.validation entry.operation (fault entry.operation)).toDocument =
        .ofPairs ([("type", .string "VALIDATION"), ("operation", .string entry.operation)] ++
          match fault entry.operation with
          | none => [("valid", .bool true)]
          | some e => [("valid", .bool false), ("error", .string e.message)]) := by
  intro report fault failures total
  have is : report = _ := run_validate x modelled loaded listed
  have faults : ∀ entry ∈ entries, Config.fault? (some config) m entry.operation =
      fault entry.operation := by
    intro entry h
    obtain ⟨_, held⟩ := Model.operation_of_mem listed h
    exact config.fault?_eq held
  rw [is, verdicts_eq faults]
  refine ⟨Model.pairwise_paginatedOperations listed, rfl, rfl, rfl, fun entry _ => ⟨?_, ?_, ?_⟩⟩
  · exact PreparedRun.fault?_eq_none
  · intro e failed
    have stopped : c.prepare access (.only entry.operation) = .error e :=
      prepare_of_fault modelled loaded (PreparedRun.fault?_eq_some.1 failed)
    constructor
    · change c.reportPages access (.only entry.operation) x = _
      rw [reportPages, stopped]
    · change c.reportItems access (.only entry.operation) x = _
      rw [reportItems, stopped]
  · cases fault entry.operation <;> rfl

/-! ### A good operation between two others -/

/-- The operation in the middle is the listing of names. The first has neither input nor output, and
the last one, which the text has first, does not say where its token is found. -/
def threeFiles : FileAccess
  | "model" => .ok
      ("[\"2\",\x7b\"Open\":[\"operation\",[\"P\"],[\"P\"]," ++
          "\x7b\"smithy.api#paginated\":[\"t\",null]\x7d]," ++
        "\"Bare\":[\"operation\",null,null,\x7b\"smithy.api#paginated\":\x7b\x7d\x7d]," ++
        "\"List\":[\"operation\",[\"P\"],[\"P\"]," ++
          "\x7b\"smithy.api#paginated\":[\"t\",\"t\",\"n\"]\x7d]," ++
        "\"P\":[\"structure\",\x7b\"n\":[\"L\"],\"t\":[\"S\"]\x7d]," ++
        "\"L\":[\"list\",[\"S\"]],\"S\":[\"string\"]\x7d]")
  | "config" => .ok "\x7b\"endpoint\":\"http://[::1]\"\x7d"
  | _ => .error .notFound

def threeFaults : List (String × Option Error) :=
  [("Bare", some (.config "Operation 'Bare' has no input")), ("List", none),
    ("Open", some (.missingField "Open: paginated.outputToken"))]

theorem three_listed :
    ∃ found : Model × Config × List PaginatedEntry,
      (do
        let m ← (listing "config").loadModel threeFiles
        let config ← (listing "config").loadConfig threeFiles
        let entries ← m.paginatedOperations
        return (m, config, entries)) = .ok found ∧
      found.2.2.map (fun entry => (entry.operation,
        PreparedRun.fault? found.1 found.2.1 (.only entry.operation))) = threeFaults :=
  exists_eq_ok (by decide +kernel)

theorem three_validated :
    let x := Exchange.ofAnswers [] (.connection "closed")
    let report := ((listing "config").doing .validate).run threeFiles x
    ∃ m config entries, (listing "config").loadModel threeFiles = .ok m ∧
      (listing "config").loadConfig threeFiles = .ok config ∧
      m.paginatedOperations = .ok entries ∧
      report.1.messages =
        [.validation "Bare" (some (.config "Operation 'Bare' has no input")),
          .validation "List" none,
          .validation "Open" (some (.missingField "Open: paginated.outputToken"))] ∧
      report.1.result = .error (.config "2 of 3 paginated operations are invalid") ∧
      report.2 = x := by
  intro x report
  obtain ⟨⟨m, config, entries⟩, found, shown⟩ := three_listed
  obtain ⟨_, modelled, found⟩ := bind_eq_ok.1 found
  obtain ⟨_, loaded, found⟩ := bind_eq_ok.1 found
  obtain ⟨_, listed, found⟩ := bind_eq_ok.1 found
  cases pure_eq_ok.1 found
  obtain ⟨_, said, ended, left, _⟩ := validation_agrees _ threeFiles x modelled loaded listed
  have messages : entries.map (fun entry => Message.validation entry.operation
      (PreparedRun.fault? m config (.only entry.operation))) =
      threeFaults.map fun p => .validation p.1 p.2 := by
    rw [← shown, List.map_map]
    rfl
  have failures : (entries.filter fun entry =>
      (PreparedRun.fault? m config (.only entry.operation)).isSome).length = 2 := by
    have counted : (threeFaults.filter fun p => p.2.isSome).length = 2 := rfl
    rw [← shown, List.filter_map, List.length_map] at counted
    exact counted
  have total : entries.length = 3 := by simpa [threeFaults] using congrArg List.length shown
  rw [failures] at said ended
  rw [total] at ended
  refine ⟨m, config, entries, modelled, loaded, listed, ?_, ended, left⟩
  rw [said, messages]
  rfl

end CommandLine

end Pagewise
