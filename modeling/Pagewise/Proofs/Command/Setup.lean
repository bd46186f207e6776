import Pagewise.Proofs.Command.Runs

/-!
Configuration errors come before the first request. A run that ends with one has found it while it was
being set up, or when it came to its first call: it has said nothing, and the host has not heard of it.
-/
namespace Pagewise

namespace PreparedRun

theorem pages_of_configuration (r : PreparedRun) {x : Exchange} {e : Error}
    (transport : x.beyond.isConfiguration = false) (configuration : e.isConfiguration = true)
    (failed : (r.pages x).1.2 = .error e) : (r.pages x).1.1 = [] ∧ (r.pages x).2 = x := by
  obtain ⟨n, reached⟩ := r.exists_reaches x
  have told := reached.told
  obtain ⟨no_page, left⟩ := OperationClient.pulls_of_configuration r.input transport n configuration
    ((told.failed e).1 failed)
  exact ⟨told.values.trans no_page, told.left.trans left⟩

end PreparedRun

namespace CommandLine

variable {c : CommandLine} {access : FileAccess} {run : RunArguments} {x : Exchange} {e : Error}

theorem reportPages_of_configuration (transport : x.beyond.isConfiguration = false)
    (configuration : e.isConfiguration = true)
    (failed : (c.reportPages access run x).1.result = .error e) :
    (c.reportPages access run x).1.messages = [] ∧ (c.reportPages access run x).2 = x := by
  cases ready : c.prepare access run with
  | error fault =>
    rw [reportPages, ready]
    exact ⟨rfl, rfl⟩
  | ok r =>
    -- Set up as it is, the run can only have met its target, on which every call founders.
    rw [reportPages_of_ready ready] at failed ⊢
    obtain ⟨said, left⟩ := r.pages_of_configuration transport configuration failed
    rw [Report.ofValues, said]
    exact ⟨rfl, left⟩

theorem reportItems_of_configuration (transport : x.beyond.isConfiguration = false)
    (configuration : e.isConfiguration = true)
    (failed : (c.reportItems access run x).1.result = .error e) :
    (c.reportItems access run x).1.messages = [] ∧ (c.reportItems access run x).2 = x := by
  cases ready : c.prepare access run with
  | error fault =>
    rw [reportItems, ready]
    exact ⟨rfl, rfl⟩
  | ok r =>
    cases listed : r.operation.items.isSome with
    | false =>
      rw [reportItems_of_unlisted ready x listed]
      exact ⟨rfl, rfl⟩
    | true =>
      rw [reportItems_of_ready ready x listed, r.items_eq] at failed ⊢
      obtain ⟨said, left⟩ := r.pages_of_configuration transport configuration failed
      rw [Report.ofValues, said]
      exact ⟨rfl, left⟩

/-- A run that ends with a configuration error has written nothing, and no attempt has been made: the
host stands where it stood. -/
theorem run_of_configuration (c : CommandLine) (access : FileAccess) (x : Exchange)
    (transport : x.beyond.isConfiguration = false)
    (asked : c.task = .pages run ∨ c.task = .items run)
    (failed : (c.run access x).1.result = .error e) (configuration : e.isConfiguration = true) :
    (c.run access x).1.messages = [] ∧ (c.run access x).2 = x := by
  rcases asked with asked | asked
  · have is : c.run access x = c.reportPages access run x := by rw [CommandLine.run, asked]
    rw [is] at failed ⊢
    exact reportPages_of_configuration transport configuration failed
  · have is : c.run access x = c.reportItems access run x := by rw [CommandLine.run, asked]
    rw [is] at failed ⊢
    exact reportItems_of_configuration transport configuration failed

theorem bell_ready : ∃ r, (listing "bell").prepare listingFiles firstPage = .ok r ∧
    r.maxPages = some 1 ∧
    errorsIn (r.pulls (.ofAnswers [.reply ⟨200, [], [], none⟩] (.connection "closed")) 1).1 =
      [.invalidValue "target_prefix" Headers.badValue] :=
  exists_eq_ok (by decide +kernel)

theorem bell_refused :
    let c := (listing "bell").doing (.pages firstPage)
    let x := Exchange.ofAnswers [.reply ⟨200, [], [], none⟩] (.connection "closed")
    let e := Error.invalidValue "target_prefix" Headers.badValue
    x.beyond.isConfiguration = false ∧ (c.run listingFiles x).1.result = .error e ∧
      e.isConfiguration = true ∧
      (c.run listingFiles x).1.messages = [] ∧ (c.run listingFiles x).2 = x := by
  intro c x e
  obtain ⟨r, ready, first⟩ := bell_ready
  have failed : (c.run listingFiles x).1.result = .error e := by
    have among : some (.error e) ∈ (r.pulls x 1).1 :=
      (mem_errorsIn _).1 (first.2 ▸ List.mem_singleton_self e)
    rw [run_pages_of_ready ready x]
    exact ((PreparedRun.reaches_of_limit x first.1).told.failed e).2 among
  exact ⟨rfl, failed, rfl,
    run_of_configuration c listingFiles x rfl (.inl rfl) failed rfl⟩

end CommandLine

end Pagewise
