import Pagewise.Config.Basic
import Pagewise.Proofs.Http.Headers

/-!
A configuration with its two tables in other orders. Whether it passes its checks, and whether there is
a client for it, is the same in every order. What the checks find is the same unless two operations
are at fault, and so is what becomes of the client unless two headers are, or one header is spelled in
two ways with two values. Then it is the order that decides.
-/
namespace Pagewise.Config

/-! ### Orders -/

/-- The same configuration, with its operations and its headers in some order. -/
inductive Reordered (c : Config) : Config → Prop where
  | intro {operations : Table OperationSettings} {headers : Table String}
    (first : c.operations.Reordered operations) (second : c.http.headers.Reordered headers) :
    Reordered c
      { c with operations := operations, http := { c.http with headers := headers } }

def bare (c : Config) : Config :=
  { c with operations := .empty, http := { c.http with headers := .empty } }

variable {c d : Config}

theorem Reordered.bare_eq (h : c.Reordered d) : d.bare = c.bare := by
  cases h
  rfl

theorem Reordered.operations (h : c.Reordered d) : c.operations.Reordered d.operations := by
  cases h with
  | intro first second => exact first

theorem Reordered.headers (h : c.Reordered d) : c.http.headers.Reordered d.http.headers := by
  cases h with
  | intro first second => exact second

/-! ### Checks -/

def operationFault? (e : String × OperationSettings) : Option Error :=
  match checkOperation e.1 e.2 with
  | .error x => some x
  | .ok () => none

theorem operationFault?_eq_some {e : String × OperationSettings} {x : Error}
    (h : operationFault? e = some x) :
    x = .invalidValue ("operations." ++ e.1 ++ ".page_size") positive ∨
      x = .invalidValue ("operations." ++ e.1 ++ ".end_behavior.member") "cannot be empty" := by
  unfold operationFault? checkOperation at h
  split at h
  · next x' failed =>
    obtain rfl := Option.some.inj h
    split at failed
    · exact .inl (Except.error.inj failed).symm
    · split at failed
      · split at failed
        · exact .inr (Except.error.inj failed).symm
        · cases failed
      · cases failed
  · cases h

theorem operationFault?_telling (a b : String × OperationSettings) (x : Error)
    (ha : operationFault? a = some x) (hb : operationFault? b = some x) : a.1 = b.1 := by
  have texts : positive ≠ "cannot be empty" := by decide
  have cancel : ∀ tail : String, "operations." ++ a.1 ++ tail = "operations." ++ b.1 ++ tail →
      a.1 = b.1 := by
    intro tail same
    exact (String.append_right_inj _).1 ((String.append_left_inj tail).1 same)
  rcases operationFault?_eq_some ha with rfl | rfl <;>
    rcases operationFault?_eq_some hb with same | same <;>
    rw [Error.invalidValue.injEq] at same
  · exact cancel _ same.1
  · exact absurd same.2 texts
  · exact absurd same.2.symm texts
  · exact cancel _ same.1

def passes : Option Error → Except Error Unit
  | none => .ok ()
  | some e => .error e

theorem passes_eq_ok {fault : Option Error} : passes fault = .ok () ↔ fault = none := by
  cases fault <;> simp [passes]

theorem passes_eq_error {fault : Option Error} {e : Error} :
    passes fault = .error e ↔ fault = some e := by
  cases fault <;> simp [passes]

theorem checkOperations_eq (entries : List (String × OperationSettings)) :
    checkOperations entries = passes (entries.findSome? operationFault?) := by
  induction entries with
  | nil => rfl
  | cons e rest ih =>
    obtain ⟨name, settings⟩ := e
    rw [checkOperations, List.findSome?_cons, operationFault?]
    cases checkOperation name settings with
    | error x => rfl
    | ok _ => exact ih

theorem validate_eq (c : Config) :
    c.validate = c.bare.validate.bind fun _ => checkOperations c.operations.entries := by
  unfold validate bare
  cases Text.allBlank c.endpoint with
  | true => rfl
  | false =>
    cases Url.parse c.endpoint with
    | error e => rfl
    | ok url => by_cases no_time : c.http.timeoutSeconds = 0 <;> simp [no_time] <;> rfl

theorem validate_bare_eq_ok {url : Url} (named : Text.allBlank c.endpoint = false)
    (parsed : Url.parse c.endpoint = .ok url) (time : c.http.timeoutSeconds ≠ 0) :
    c.bare.validate = .ok () := by
  simp [validate, bare, named, parsed, time, Table.empty, checkOperations]

theorem validate_of_bare_error {e : Error} (h : c.bare.validate = .error e) :
    c.validate = .error e := by
  rw [validate_eq, h]
  rfl

theorem validate_of_bare_ok (h : c.bare.validate = .ok ()) :
    c.validate = passes (c.operations.entries.findSome? operationFault?) := by
  rw [validate_eq, h]
  exact checkOperations_eq _

theorem operationClient_eq (c : Config) :
    c.operationClient = (Headers.configured c.http.headers).bind fun hs =>
      OperationClient.new ⟨c.http.toClient, hs⟩ c.endpoint (Text.nonEmpty? c.targetLead) := by
  have settings : c.http.toClient.headers = c.http.headers := rfl
  rw [operationClient, HttpClient.new, settings]
  cases Headers.configured c.http.headers <;> rfl

theorem operationClient_of_fault {e : Error}
    (h : c.http.headers.entries.findSome? Headers.fault? = some e) :
    c.operationClient = .error e := by
  rw [operationClient_eq, Headers.configured_of_fault h]
  rfl

theorem operationClient_of_sound
    (h : c.http.headers.entries.findSome? Headers.fault? = none) :
    c.operationClient =
      OperationClient.new ⟨c.http.toClient, Headers.ofList c.http.headers.entries⟩ c.endpoint
        (Text.nonEmpty? c.targetLead) := by
  rw [operationClient_eq, Headers.configured_of_sound h]
  rfl

theorem operationClient_of_parsed {url : Url}
    (sound : c.http.headers.entries.findSome? Headers.fault? = none)
    (parsed : Url.parse c.endpoint = .ok url) :
    c.operationClient = .ok ⟨⟨c.http.toClient, Headers.ofList c.http.headers.entries⟩, url,
      Text.nonEmpty? c.targetLead⟩ := by
  rw [operationClient_of_sound sound, OperationClient.new, parsed]

/-! ### What an order decides -/

/-- Two operations are at fault, and nothing else is. -/
def RivalFaults (c : Config) : Prop :=
  c.bare.validate = .ok () ∧ c.operations.Rivals operationFault?

/-- Two headers are at fault, or none is and one name has two values. -/
inductive RivalHeaders (c : Config) : Prop where
  | faults (h : c.http.headers.Rivals Headers.fault?)
  | values {url : Url} {a b : String × String}
    (sound : c.http.headers.entries.findSome? Headers.fault? = none)
    (parsed : Url.parse c.endpoint = .ok url)
    (first : a ∈ c.http.headers.entries) (second : b ∈ c.http.headers.entries)
    (spelled : Headers.lowerName a.1 = Headers.lowerName b.1) (differ : a.2 ≠ b.2)

/-- Two ways to set up a client fail with one error, or come to clients with the same headers for the
same endpoint and target. -/
inductive SameClient : Except Error OperationClient → Except Error OperationClient → Prop where
  | failed (e : Error) : SameClient (.error e) (.error e)
  | built {k l : OperationClient}
    (headers : ∀ name, l.http.headers.get? name = k.http.headers.get? name)
    (endpoint : l.endpoint = k.endpoint) (lead : l.targetLead = k.targetLead) :
    SameClient (.ok k) (.ok l)

theorem Reordered.validate_eq_ok_iff (h : c.Reordered d) :
    d.validate = .ok () ↔ c.validate = .ok () := by
  cases rest : c.bare.validate with
  | error e =>
    rw [validate_of_bare_error rest, validate_of_bare_error (h.bare_eq ▸ rest)]
  | ok _ =>
    rw [validate_of_bare_ok rest, validate_of_bare_ok (h.bare_eq ▸ rest), passes_eq_ok,
      passes_eq_ok, h.operations.findSome?_eq_none_iff]

theorem Reordered.error_of_validate (h : c.Reordered d) {e : Error}
    (failed : d.validate = .error e) :
    c.validate = .error e ∨ ∃ a ∈ c.operations.entries, operationFault? a = some e := by
  cases rest : c.bare.validate with
  | error x =>
    rw [validate_of_bare_error (h.bare_eq ▸ rest)] at failed
    exact .inl (failed ▸ validate_of_bare_error rest)
  | ok _ =>
    rw [validate_of_bare_ok (h.bare_eq ▸ rest), passes_eq_error] at failed
    obtain ⟨a, ha, fault⟩ := List.exists_of_findSome?_eq_some failed
    exact .inr ⟨a, h.operations.mem_iff.1 ha, fault⟩

theorem Reordered.validate_eq (h : c.Reordered d) (free : ¬ c.RivalFaults) :
    d.validate = c.validate := by
  cases rest : c.bare.validate with
  | error e => rw [validate_of_bare_error rest, validate_of_bare_error (h.bare_eq ▸ rest)]
  | ok _ =>
    have settled : c.operations.Settled operationFault? :=
      Table.settled_of_not_rivals fun rivals => free ⟨rest, rivals⟩
    rw [validate_of_bare_ok rest, validate_of_bare_ok (h.bare_eq ▸ rest),
      h.operations.first_eq settled]

theorem exists_validate_eq (rest : c.bare.validate = .ok ()) {a : String × OperationSettings}
    (ha : a ∈ c.operations.entries) {e : Error} (fault : operationFault? a = some e) :
    ∃ d, c.Reordered d ∧ d.validate = .error e := by
  obtain ⟨operations, order, first⟩ := Table.exists_first ha fault
  have reordered : c.Reordered _ := .intro order (.refl _)
  refine ⟨_, reordered, (validate_of_bare_ok (reordered.bare_eq ▸ rest)).trans ?_⟩
  exact congrArg passes first

theorem RivalFaults.not_same (h : c.RivalFaults) :
    ¬ ∀ d, c.Reordered d → d.validate = c.validate := by
  intro same
  obtain ⟨a, ha, b, hb, x, y, hx, hy, differ⟩ := h.2.exists_ne operationFault?_telling
  obtain ⟨d, order, found⟩ := exists_validate_eq h.1 ha hx
  obtain ⟨d', order', found'⟩ := exists_validate_eq h.1 hb hy
  -- Each of two faults comes first in some order, and one result cannot name both.
  rw [same d order] at found
  rw [same d' order', found] at found'
  exact differ (Except.error.inj found')

/-! ### Clients -/

theorem Reordered.endpoint_eq (h : c.Reordered d) : d.endpoint = c.endpoint := by
  cases h
  rfl

theorem Reordered.lead_eq (h : c.Reordered d) : d.targetLead = c.targetLead := by
  cases h
  rfl

theorem exists_operationClient_iff :
    (∃ k, c.operationClient = .ok k) ↔
      c.http.headers.entries.findSome? Headers.fault? = none ∧
        ∃ url, Url.parse c.endpoint = .ok url := by
  cases fault : c.http.headers.entries.findSome? Headers.fault? with
  | some e => simp [operationClient_of_fault fault]
  | none =>
    rw [operationClient_of_sound fault, OperationClient.new]
    cases Url.parse c.endpoint <;> simp

theorem Reordered.exists_operationClient_iff (h : c.Reordered d) :
    (∃ k, d.operationClient = .ok k) ↔ ∃ k, c.operationClient = .ok k := by
  rw [Config.exists_operationClient_iff, Config.exists_operationClient_iff,
    h.headers.findSome?_eq_none_iff, h.endpoint_eq]

theorem Reordered.error_of_operationClient (h : c.Reordered d) {e : Error}
    (failed : d.operationClient = .error e) :
    c.operationClient = .error e ∨ ∃ a ∈ c.http.headers.entries, Headers.fault? a = some e := by
  cases fault : d.http.headers.entries.findSome? Headers.fault? with
  | some x =>
    rw [operationClient_of_fault fault, Except.error.injEq] at failed
    obtain ⟨a, ha, found⟩ := List.exists_of_findSome?_eq_some fault
    exact .inr ⟨a, h.headers.mem_iff.1 ha, failed ▸ found⟩
  | none =>
    rw [operationClient_of_sound fault, OperationClient.new, h.endpoint_eq] at failed
    rw [operationClient_of_sound (h.headers.findSome?_eq_none_iff.1 fault), OperationClient.new]
    cases parsed : Url.parse c.endpoint with
    | ok url =>
      rw [parsed] at failed
      cases failed
    | error x =>
      rw [parsed] at failed
      exact .inl failed

theorem Reordered.chosenFrom (h : c.Reordered d) {k : OperationClient}
    (built : d.operationClient = .ok k) : Headers.ChosenFrom c.http.headers k.http.headers := by
  obtain ⟨sound, url, parsed⟩ := Config.exists_operationClient_iff.1 ⟨k, built⟩
  rw [operationClient_of_parsed sound parsed, Except.ok.injEq] at built
  subst built
  exact Headers.chosenFrom_ofList h.headers

theorem Reordered.sameClient (h : c.Reordered d) (free : ¬ c.RivalHeaders) :
    SameClient c.operationClient d.operationClient := by
  cases fault : c.http.headers.entries.findSome? Headers.fault? with
  | some e =>
    have settled : c.http.headers.Settled Headers.fault? :=
      Table.settled_of_not_rivals fun rivals => free (.faults rivals)
    rw [operationClient_of_fault fault, operationClient_of_fault
      ((h.headers.first_eq settled).trans fault)]
    exact .failed e
  | none =>
    rw [operationClient_of_sound fault,
      operationClient_of_sound (h.headers.findSome?_eq_none_iff.2 fault),
      OperationClient.new, OperationClient.new, h.endpoint_eq, h.lead_eq]
    cases parsed : Url.parse c.endpoint with
    | error e => exact .failed _
    | ok url =>
      refine .built (fun name => ?_) rfl rfl
      -- Two values for one name would be rivals.
      have settled : c.http.headers.Settled (Headers.valueFor name) := by
        intro a ha b hb x y hx hy
        obtain ⟨name_a, rfl⟩ := Headers.valueFor_eq_some.1 hx
        obtain ⟨name_b, rfl⟩ := Headers.valueFor_eq_some.1 hy
        exact Decidable.of_not_not fun differ =>
          free (.values fault parsed ha hb (name_a.trans name_b.symm) differ)
      simp only [Headers.get?_ofList]
      exact h.headers.last_eq settled

theorem exists_operationClient_eq_error {a : String × String} (ha : a ∈ c.http.headers.entries)
    {e : Error} (fault : Headers.fault? a = some e) :
    ∃ d, c.Reordered d ∧ d.operationClient = .error e := by
  obtain ⟨headers, order, first⟩ := Table.exists_first ha fault
  exact ⟨_, .intro (.refl _) order, operationClient_of_fault first⟩

theorem exists_operationClient_eq_ok {url : Url} {a : String × String}
    (sound : c.http.headers.entries.findSome? Headers.fault? = none)
    (parsed : Url.parse c.endpoint = .ok url) (ha : a ∈ c.http.headers.entries) :
    ∃ d k, c.Reordered d ∧ d.operationClient = .ok k ∧
      k.http.headers.get? (Headers.lowerName a.1) = some a.2 := by
  obtain ⟨headers, order, last⟩ :=
    Table.exists_last ha (Headers.valueFor_eq_some.2 ⟨rfl, rfl⟩)
  have reordered : c.Reordered _ := .intro (.refl _) order
  have built := operationClient_of_parsed (reordered.headers.findSome?_eq_none_iff.2 sound)
    (reordered.endpoint_eq ▸ parsed)
  exact ⟨_, _, reordered, built, (Headers.get?_ofList _ _).trans last⟩

theorem SameClient.eq_error {r : Except Error OperationClient} {e : Error}
    (h : SameClient r (.error e)) : r = .error e := by
  cases h
  rfl

theorem SameClient.exists_eq_ok {r : Except Error OperationClient} {l : OperationClient}
    (h : SameClient r (.ok l)) :
    ∃ k, r = .ok k ∧ ∀ name, l.http.headers.get? name = k.http.headers.get? name := by
  cases h with
  | built headers => exact ⟨_, rfl, headers⟩

theorem RivalHeaders.not_same (h : c.RivalHeaders) :
    ¬ ∀ d, c.Reordered d → SameClient c.operationClient d.operationClient := by
  intro same
  cases h with
  | faults rivals =>
    obtain ⟨a, ha, b, hb, x, y, hx, hy, differ⟩ := rivals.exists_ne Headers.fault?_telling
    obtain ⟨d, order, found⟩ := exists_operationClient_eq_error ha hx
    obtain ⟨d', order', found'⟩ := exists_operationClient_eq_error hb hy
    have agrees := same d order
    have agrees' := same d' order'
    rw [found] at agrees
    rw [found', agrees.eq_error] at agrees'
    exact differ (Except.error.inj agrees'.eq_error)
  | @values url a b sound parsed first second spelled differ =>
    obtain ⟨d, k, order, built, value⟩ := exists_operationClient_eq_ok sound parsed first
    obtain ⟨d', k', order', built', value'⟩ := exists_operationClient_eq_ok sound parsed second
    have agrees := same d order
    have agrees' := same d' order'
    rw [built] at agrees
    rw [built'] at agrees'
    obtain ⟨l, there, headers⟩ := agrees.exists_eq_ok
    obtain ⟨l', there', headers'⟩ := agrees'.exists_eq_ok
    obtain rfl : l = l' := Except.ok.inj (there.symm.trans there')
    rw [headers] at value
    rw [headers', ← spelled, value] at value'
    exact differ (Option.some.inj value')

/-! ### Any two orders -/

/-- Two orders of a configuration agree on whether it passes its checks and on whether it has a client.
The checks come to the same result in every order unless two operations are at fault, and clients are the
same in every order unless two headers are at fault or one has two values; then the error is one of
these faults and the headers have one of the values. -/
theorem agree_in_any_order (c : Config) :
    ((∀ d, c.Reordered d → d.validate = c.validate) ↔ ¬ c.RivalFaults) ∧
    ((∀ d, c.Reordered d → SameClient c.operationClient d.operationClient) ↔ ¬ c.RivalHeaders) ∧
    ∀ d, c.Reordered d →
      (d.validate = .ok () ↔ c.validate = .ok ()) ∧
      (∀ e, d.validate = .error e →
        c.validate = .error e ∨ ∃ a ∈ c.operations.entries, operationFault? a = some e) ∧
      ((∃ k, d.operationClient = .ok k) ↔ ∃ k, c.operationClient = .ok k) ∧
      (∀ e, d.operationClient = .error e →
        c.operationClient = .error e ∨ ∃ a ∈ c.http.headers.entries, Headers.fault? a = some e) ∧
      ∀ k, d.operationClient = .ok k → Headers.ChosenFrom c.http.headers k.http.headers := by
  refine ⟨⟨fun same rivals => rivals.not_same same, fun free d h => h.validate_eq free⟩,
    ⟨fun same rivals => rivals.not_same same, fun free d h => h.sameClient free⟩, fun d h => ?_⟩
  exact ⟨h.validate_eq_ok_iff, fun _ => h.error_of_validate, h.exists_operationClient_iff,
    fun _ => h.error_of_operationClient, fun _ => h.chosenFrom⟩

def ofTables (operations : Table OperationSettings) (headers : Table String) : Config :=
  ⟨"http://[::1]", none, { (default : HttpSettings) with headers := headers }, operations, 0⟩

theorem agree_on_one_fault :
    let c := ofTables ⟨[("A", ⟨none, some 1⟩), ("B", ⟨none, some 0⟩)], by decide⟩
      ⟨[("Key", "1"), ("other", "2")], by decide⟩
    let d := ofTables ⟨[("B", ⟨none, some 0⟩), ("A", ⟨none, some 1⟩)], by decide⟩
      ⟨[("other", "2"), ("Key", "1")], by decide⟩
    c.Reordered d ∧ d.validate = c.validate ∧ SameClient c.operationClient d.operationClient := by
  intro c d
  have order : c.Reordered d := .intro (List.Perm.swap _ _ _) (List.Perm.swap _ _ _)
  have oneFault : ¬ c.RivalFaults := by
    rintro ⟨_, rivals⟩
    revert rivals
    unfold Table.Rivals
    decide
  have oneValue : ¬ c.RivalHeaders := by
    rintro (⟨a, ha, b, hb, differ, fault, _⟩ | ⟨_, _, first, second, spelled, differ⟩)
    · have sound : ∀ e ∈ c.http.headers.entries, Headers.fault? e = none := by decide
      exact fault (sound a ha)
    · have single : ∀ a ∈ c.http.headers.entries, ∀ b ∈ c.http.headers.entries,
          Headers.lowerName a.1 = Headers.lowerName b.1 → a.2 = b.2 := by decide
      exact differ (single _ first _ second spelled)
  obtain ⟨checks, clients, _⟩ := c.agree_in_any_order
  exact ⟨order, checks.2 oneFault d order, clients.2 oneValue d order⟩

/-- Of two operations at fault the first is named, and of two spellings of a header the last counts. -/
theorem order_decides :
    let c := ofTables ⟨[("A", ⟨none, some 0⟩), ("B", ⟨none, some 0⟩)], by decide⟩
      ⟨[("Key", "1"), ("key", "2")], by decide⟩
    let d := ofTables ⟨[("B", ⟨none, some 0⟩), ("A", ⟨none, some 0⟩)], by decide⟩
      ⟨[("key", "2"), ("Key", "1")], by decide⟩
    c.Reordered d ∧
      c.validate = .error (.invalidValue "operations.A.page_size" positive) ∧
      d.validate = .error (.invalidValue "operations.B.page_size" positive) ∧
      ∃ k l, c.operationClient = .ok k ∧ d.operationClient = .ok l ∧
        k.http.headers.get? "key" = some "2" ∧ l.http.headers.get? "key" = some "1" := by
  intro c d
  have order : c.Reordered d := .intro (List.Perm.swap _ _ _) (List.Perm.swap _ _ _)
  have sound : c.http.headers.entries.findSome? Headers.fault? = none := by decide
  obtain ⟨url, parsed⟩ : ∃ url, Url.parse "http://[::1]" = .ok url := ⟨_, rfl⟩
  have rest : c.bare.validate = .ok () := validate_bare_eq_ok (by decide) parsed (by decide)
  have namesFirst : c.validate = .error (.invalidValue "operations.A.page_size" positive) :=
    (validate_of_bare_ok rest).trans rfl
  have namesSecond : d.validate = .error (.invalidValue "operations.B.page_size" positive) :=
    (validate_of_bare_ok (order.bare_eq ▸ rest)).trans rfl
  have built := operationClient_of_parsed sound parsed
  have built' := operationClient_of_parsed (order.headers.findSome?_eq_none_iff.2 sound) parsed
  have second : (Headers.ofList c.http.headers.entries).get? "key" = some "2" := by decide
  have first : (Headers.ofList d.http.headers.entries).get? "key" = some "1" := by decide
  exact ⟨order, namesFirst, namesSecond, _, _, built, built', second, first⟩

end Pagewise.Config
