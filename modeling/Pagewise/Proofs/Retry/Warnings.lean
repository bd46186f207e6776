import Mathlib
import Pagewise.Config.Reader
import Pagewise.Proofs.Http.Call
import Pagewise.Proofs.Retry.Course

/-!
The numbers in the warnings of retries. A failed attempt has its own number, since a word counts
all the retries. The attempts that are allowed are one more, which a word holds unless the retries
are as many as it can count. No check keeps a configuration from having so many, and then the first
warning stops the program.
-/
namespace Pagewise

namespace RetryPolicy

variable {σ α : Type}

/-- A word holds the number of all attempts. -/
def HasRoom (p : RetryPolicy) : Prop := p.maxRetries.toNat + 1 < UInt32.size

theorem total_of_room {p : RetryPolicy} (room : p.HasRoom) :
    ∃ total, p.total? = some total ∧ total.toNat = p.maxRetries.toNat + 1 := by
  refine ⟨p.maxRetries + 1, if_pos room, ?_⟩
  have : p.maxRetries.toNat + 1 < 2 ^ 32 := room
  rw [UInt32.toNat_add, UInt32.toNat_one, Nat.mod_eq_of_lt this]

theorem total_of_full {p : RetryPolicy} (full : ¬ p.HasRoom) : p.total? = none := if_neg full

theorem total_of_mem (p : RetryPolicy) (aloud : Bool) (send : σ → Except Error α × σ)
    (attempt : UInt32) (s : σ) :
    ∀ r ∈ (p.attempts aloud send attempt s).2.1, r.total = p.total? := by
  fun_induction attempts p aloud send attempt s with
  | case1 => simp
  | case2 => simp
  | case3 attempt s e t _ more _ _ rest ih =>
    intro r among
    cases List.mem_cons.1 among with
    | inl first => rw [first]
    | inr later => exact ih r later
  | case4 => simp

theorem attempts_of_room {p : RetryPolicy} (room : p.HasRoom) (aloud : Bool)
    (send : σ → Except Error α × σ) (attempt : UInt32) (s : σ) :
    p.attempts aloud send attempt s = p.attempts false send attempt s := by
  obtain ⟨total, held, _⟩ := total_of_room room
  fun_induction attempts p false send attempt s with
  | case1 attempt s a t is => rw [attempts, is]
  | case2 attempt s e t _ _ stops => cases stops
  | case3 attempt s e t is more _ _ rest ih =>
    rw [attempts, is]
    simp only [more, and_self, dite_true, held, Option.isNone_some, Bool.and_false,
      Bool.false_eq_true, if_false, ih]
    rfl
  | case4 attempt s e t is last =>
    rw [attempts, is]
    simp only [last, dite_false]

/-- Where there is none, the first warning stops the program. -/
theorem runAloud_of_full {p : RetryPolicy} (full : ¬ p.HasRoom) (send : σ → Except Error α × σ)
    (s : σ) :
    p.runAloud send s =
      match send s with
      | (.ok a, t) => (.ok a, [], t)
      | (.error e, t) => (.error (if e.isRetryable then .overflow else e), [], t) := by
  have some_allowed : 0 < p.maxRetries := by
    rw [UInt32.lt_iff_toNat_lt]
    simp only [HasRoom, UInt32.size, Nat.not_lt] at full
    simp only [UInt32.toNat_zero]
    omega
  rw [runAloud, attempts]
  rcases send s with ⟨e | a, t⟩
  · cases retryable : e.isRetryable <;> simp [retryable, some_allowed, total_of_full full]
  · rfl

theorem warning_of_total (tell : Error → String) {r : Retry} {total : UInt32}
    (held : r.total = some total) :
    r.warning tell = some ("Request failed (" ++ tell r.error ++ "), attempt " ++
      toString r.attempt.toNat ++ "/" ++ toString total.toNat ++ ", retrying in " ++
      r.delay.write) := by
  rw [Retry.warning, held]
  rfl

end RetryPolicy

/-- With room for the number of its attempts a call is the same whether its warnings are heard or not. -/
theorem OperationClient.callWarned_of_room {c : OperationClient}
    (room : c.http.settings.retry.HasRoom) (aloud : Bool) (operation : String) (input : Document)
    (x : Exchange) : c.callWarned aloud operation input x = c.call operation input x := by
  simp only [call, callWarned, RetryPolicy.attempts_of_room room aloud]

theorem OperationClient.callWarned_of_full {c : OperationClient} {operation : String}
    (legal : Headers.isValue (c.target operation) = true)
    (full : ¬ c.http.settings.retry.HasRoom) (input : Document) (x : Exchange) :
    c.callWarned true operation input x =
      match c.attempt (c.posted operation input) x with
      | (.ok d, y) => (.ok d, y)
      | (.error e, y) => (.error (if e.isRetryable then .overflow else e), y) := by
  have once := RetryPolicy.runAloud_of_full full (c.attempt (c.posted operation input)) x
  rw [RetryPolicy.runAloud, posted] at once
  rw [callWarned, if_pos legal]
  simp only [once, posted]
  rcases c.attempt _ x with ⟨e | d, y⟩ <;> rfl

namespace Config

/-- The retries of a configuration over any outcomes. Each of them follows the failed attempt of its
number. If a word has room for the number of all attempts then warnings change nothing, and each one
tells its attempt, out of the exact number of all and below it. If there is no room then no warning is
given: the program stops at the first failure that would be retried. The checks of a configuration do
not look at it. -/
theorem warnings_numbered (c : Config) (o : Nat → Except Error Document) (request : HttpRequest) :
    let p := c.http.toClient.retry
    let quiet := p.run (RetryPolicy.recorded o request) []
    let aloud := p.runAloud (RetryPolicy.recorded o request) []
    let room := c.http.maxRetries.toNat + 1 < UInt32.size
    (∀ (i : Nat) (h : i < quiet.2.1.length),
      o i = .error quiet.2.1[i].error ∧ quiet.2.1[i].attempt.toNat = i + 1) ∧
    (room → aloud = quiet ∧ ∀ (i : Nat) (h : i < aloud.2.1.length), ∃ total : UInt32,
      aloud.2.1[i].total = some total ∧ total.toNat = c.http.maxRetries.toNat + 1 ∧
      aloud.2.1[i].attempt < total ∧
      ∀ tell : Error → String, aloud.2.1[i].warning tell =
        some ("Request failed (" ++ tell aloud.2.1[i].error ++ "), attempt " ++
          toString (i + 1) ++ "/" ++ toString (c.http.maxRetries.toNat + 1) ++
          ", retrying in " ++ aloud.2.1[i].delay.write)) ∧
    (¬ room → aloud =
      match o 0 with
      | .ok d => (.ok d, [], [request])
      | .error e => (.error (if e.isRetryable then .overflow else e), [], [request])) ∧
    ∀ n, { c with http := { c.http with maxRetries := n } }.validate = c.validate := by
  intro p quiet aloud room
  have numbered : ∀ (i : Nat) (h : i < quiet.2.1.length), quiet.2.1[i].attempt.toNat = i + 1 := by
    intro i h
    have := (p.getElem_attempts false (RetryPolicy.recorded o request) 0 [] i h).1
    rwa [UInt32.toNat_zero, Nat.zero_add] at this
  refine ⟨fun i h => ⟨(p.run_recorded o request).1 i h, numbered i h⟩, fun fits => ?_,
    fun full => ?_, fun _ => rfl⟩
  · have same : aloud = quiet := RetryPolicy.attempts_of_room (p := p) fits true _ 0 []
    refine ⟨same, ?_⟩
    rw [same]
    intro i h
    obtain ⟨total, held, exact_total⟩ := RetryPolicy.total_of_room (p := p) fits
    have kept : quiet.2.1[i].total = some total :=
      (p.total_of_mem false _ 0 [] _ (List.getElem_mem h)).trans held
    have bounded : quiet.2.1.length ≤ p.maxRetries.toNat :=
      (p.attempts_keep (RetryPolicy.recorded o request) 0 []).bounded
    refine ⟨total, kept, exact_total, ?_, fun tell => ?_⟩
    · rw [UInt32.lt_iff_toNat_lt, numbered i h, exact_total]
      omega
    · rw [RetryPolicy.warning_of_total tell kept, numbered i h, exact_total]
      rfl
  · have stopped : aloud = _ := RetryPolicy.runAloud_of_full (p := p) full _ []
    rw [stopped, RetryPolicy.recorded]
    cases o 0 <;> rfl

/-! ### As many retries as a word can count -/

def mostRetries : Config :=
  ⟨"http://[::1]", none, { (default : HttpSettings) with maxRetries := 4294967295 }, .empty, 0⟩

theorem tokens_mostRetries :
    Yaml.tokens? "endpoint: http://[::1]\nhttp: \x7bmax_retries: 4294967295\x7d" =
      some [.blockMappingStart, .key, .scalar .plain "endpoint", .value,
        .scalar .plain "http://[::1]", .key, .scalar .plain "http", .value, .flowMappingStart, .key,
        .scalar .plain "max_retries", .value, .scalar .plain "4294967295", .flowMappingEnd,
        .blockEnd, .streamEnd] := by
  cbv

theorem ofText_mostRetries :
    ofText "endpoint: http://[::1]\nhttp: \x7bmax_retries: 4294967295\x7d" = .ok mostRetries := by
  rw [ofText, Yaml.Node.ofText?, tokens_mostRetries]
  rfl

def mostRetriesClient : OperationClient :=
  ⟨⟨mostRetries.http.toClient, .empty⟩,
    ⟨"http", some ⟨"", "", .ipv6 [0, 0, 0, 0, 0, 0, 0, 1], none⟩, "/", none, none⟩, none⟩

theorem operationClient_mostRetries : mostRetries.operationClient = .ok mostRetriesClient := by
  rfl

/-- The checks let the configuration pass, and at the host a first attempt that fails stops the
program: the number of all attempts has no word, and nothing is tried again. -/
theorem mostRetries_overflow :
    ∃ c client, ofText "endpoint: http://[::1]\nhttp: \x7bmax_retries: 4294967295\x7d" = .ok c ∧
      c.operationClient = .ok client ∧ c.http.toClient.retry.total? = none ∧
      let x := Exchange.ofAnswers [.reply ⟨500, [], [], none⟩, .reply ⟨200, [], [], none⟩]
        (.connection "closed")
      let r := client.callWarned true "List" .emptyObject x
      r.1 = .error .overflow ∧ r.2.retried = [] ∧
        r.2.sent = [client.posted "List" .emptyObject] := by
  refine ⟨mostRetries, mostRetriesClient, ofText_mostRetries, operationClient_mostRetries, rfl, ?_⟩
  intro x r
  have legal : Headers.isValue (mostRetriesClient.target "List") = true := by decide
  have full : ¬ mostRetriesClient.http.settings.retry.HasRoom := Nat.lt_irrefl _
  have called : r = (.error .overflow, { x with
      answers := x.answers.tail
      requests := [mostRetriesClient.posted "List" .emptyObject] }) :=
    OperationClient.callWarned_of_full legal full .emptyObject x
  rw [called]
  exact ⟨rfl, rfl, rfl⟩

end Config

end Pagewise
