import Pagewise.Proofs.Model.Refusal

/-!
What resolution accepts is said here without it: a listed operation with an input and an output, whose
merged trait names members that are found at shapes of fitting kinds. Everything else it refuses with
a configuration error.
-/
namespace Pagewise

namespace Model

variable {m : Model} {id name : String}

/-! ### Members and kinds -/

/-- Member names lead from a shape to another one, through structures and unions of the model. -/
inductive Targets (m : Model) : List String → String → String → Prop where
  | here (id : String) : Targets m [] id id
  | member {id name target : String} {rest : List String} {aggregate : AggregateShape}
    {part : ShapeMember}
    (held : m.shapes.get? id = some (.record aggregate) ∨ m.shapes.get? id = some (.union aggregate))
    (declared : aggregate.members.get? name = some part)
    (later : Targets m rest part.target target) : Targets m (name :: rest) id target

/-- Shapes of the model have the kind of their type; of the others only those of the prelude have a
kind, by their name. -/
inductive HasKind (m : Model) (id : String) : ShapeKind → Prop where
  | own {s : Shape} (held : m.shapes.get? id = some s) : HasKind m id s.kind
  | prelude {name : String} (absent : m.shapes.get? id = none) (named : id = "smithy.api#" ++ name) :
    HasKind m id (preludeKind name)

def Finds (m : Model) (root : String) (kinds : List ShapeKind) (path : Path) : Prop :=
  ∃ target kind, m.Targets path.segments root target ∧ m.HasKind target kind ∧ kind ∈ kinds

theorem declared?_eq_some {segment next : String} : m.declared? id segment = some next ↔
    ∃ aggregate part, (m.shapes.get? id = some (.record aggregate) ∨
      m.shapes.get? id = some (.union aggregate)) ∧
      aggregate.members.get? segment = some part ∧ part.target = next := by
  rw [declared?]
  cases m.shapes.get? id with
  | none => simp
  | some s => cases s <;> simp [Shape.members?]

theorem walk_eq_ok {path : Path} {segments : List String} {target : String} :
    m.walk path segments id = .ok target ↔ m.Targets segments id target := by
  induction segments generalizing id with
  | nil =>
    constructor
    · intro h
      cases h
      exact .here _
    · intro h
      cases h
      rfl
  | cons segment rest ih =>
    rw [walk_cons_eq_ok]
    constructor
    · rintro ⟨next, declared, walked⟩
      obtain ⟨aggregate, part, held, holds, rfl⟩ := declared?_eq_some.1 declared
      exact .member held holds (ih.1 walked)
    · intro h
      cases h with
      | member held declared later =>
        exact ⟨_, declared?_eq_some.2 ⟨_, _, held, declared, rfl⟩, ih.2 later⟩

theorem after?_eq_some {lead cs rest : List Char} :
    after? lead cs = some rest ↔ cs = lead ++ rest := by
  rw [after?]
  split
  · next h =>
    obtain ⟨tail, rfl⟩ := List.isPrefixOf_iff_prefix.1 h
    simp
  · next h =>
    constructor
    · intro h
      cases h
    · rintro rfl
      exact absurd (List.isPrefixOf_iff_prefix.2 (List.prefix_append lead rest)) h

theorem kindOf_eq_ok {kind : ShapeKind} : m.kindOf id = .ok kind ↔ m.HasKind id kind := by
  rw [kindOf]
  cases held : m.shapes.get? id with
  | some s =>
    constructor
    · intro h
      cases h
      exact .own held
    · intro h
      cases h with
      | own held' =>
        cases held.symm.trans held'
        rfl
      | prelude absent => cases held.symm.trans absent
  | none =>
    constructor
    · intro h
      simp only at h
      split at h
      · next name found =>
        cases h
        refine .prelude held ?_
        have tail : (String.ofList name).toList = name := String.toList_ofList
        rw [← String.toList_inj, String.toList_append, tail]
        exact after?_eq_some.1 found
      · cases h
    · intro h
      cases h with
      | own held' => cases held.symm.trans held'
      | @prelude name _ named =>
        have found : after? "smithy.api#".toList id.toList = some name.toList := by
          rw [after?_eq_some, named, String.toList_append]
        simp only [found, String.ofList_toList]

theorem expectKind_iff_finds {root : String} {path : Path} {kinds : List ShapeKind} :
    m.expectKind root path kinds = .ok () ↔ m.Finds root kinds path := by
  simp only [expectKind_eq_ok, memberTarget, walk_eq_ok, kindOf_eq_ok, Finds]

/-! ### What is accepted -/

def ReadAs (read : String → Except Error Path) (fits : Path → Prop) :
    Option String → Option Path → Prop
  | none, path => path = none
  | some text, path => ∃ p, read text = .ok p ∧ fits p ∧ path = some p

/-- An operation is bound just as its merged trait and the end behavior say, and all members that
they name are found. -/
structure Accepts (m : Model) (id input output : String) (trait : PaginatedTrait)
    (behavior : EndBehavior) (op : PagedOperation) : Prop where
  name : op.name = shortName id
  input_token : ∃ text, trait.inputToken = some text ∧ Path.member text = .ok op.inputToken ∧
    m.Finds input [.string, .map] op.inputToken
  output_token : ∃ text, trait.outputToken = some text ∧ Path.parse text = .ok op.outputToken ∧
    m.Finds output [.string, .map] op.outputToken
  items : ReadAs Path.parse (m.Finds output [.list, .map]) trait.items op.items
  page_size : ReadAs Path.member (m.Finds input [.integer]) trait.pageSize op.pageSize
  flag : ∀ member, behavior = .truncationMember member →
    ∃ path, Path.parse member = .ok path ∧ m.Finds output [.boolean] path
  end_behavior : op.endBehavior = behavior

theorem optionalPath_iff_readAs {read : String → Except Error Path} {root : String}
    {kinds : List ShapeKind} {text : Option String} {path : Option Path} :
    m.optionalPath read root kinds text = .ok path ↔ ReadAs read (m.Finds root kinds) text path := by
  rw [optionalPath_eq_ok]
  cases text with
  | none => simp [ReadAs]
  | some text => simp [ReadAs, expectKind_iff_finds, and_comm, and_left_comm]

theorem flag_iff {output : String} {behavior : EndBehavior} :
    (∃ p, m.optionalPath Path.parse output [.boolean] behavior.flagMember? = .ok p) ↔
      ∀ member, behavior = .truncationMember member →
        ∃ path, Path.parse member = .ok path ∧ m.Finds output [.boolean] path := by
  simp only [optionalPath_iff_readAs]
  cases behavior <;> simp [EndBehavior.flagMember?, ReadAs]

theorem binds_iff_accepts {input output : String} {trait : PaginatedTrait} {behavior : EndBehavior}
    {op : PagedOperation} :
    m.Binds id input output trait behavior op ↔ m.Accepts id input output trait behavior op := by
  constructor
  · intro h
    obtain ⟨inputText, givenInput, readInput⟩ := h.input_token
    obtain ⟨outputText, givenOutput, readOutput⟩ := h.output_token
    exact
      { name := h.name
        input_token := ⟨inputText, givenInput, readInput, expectKind_iff_finds.1 h.input_kind⟩
        output_token := ⟨outputText, givenOutput, readOutput, expectKind_iff_finds.1 h.output_kind⟩
        items := optionalPath_iff_readAs.1 h.items
        page_size := optionalPath_iff_readAs.1 h.page_size
        flag := flag_iff.1 h.flag
        end_behavior := h.end_behavior }
  · intro h
    obtain ⟨inputText, givenInput, readInput, inputFound⟩ := h.input_token
    obtain ⟨outputText, givenOutput, readOutput, outputFound⟩ := h.output_token
    exact
      { name := h.name
        input_token := ⟨inputText, givenInput, readInput⟩
        input_kind := expectKind_iff_finds.2 inputFound
        output_token := ⟨outputText, givenOutput, readOutput⟩
        output_kind := expectKind_iff_finds.2 outputFound
        items := optionalPath_iff_readAs.2 h.items
        page_size := optionalPath_iff_readAs.2 h.page_size
        flag := flag_iff.2 h.flag
        end_behavior := h.end_behavior }

/-- What resolves: an operation that is found and listed, with an input and an output, whose merged
trait is accepted. -/
def Resolvable (m : Model) (name : String) (behavior : EndBehavior) (op : PagedOperation) : Prop :=
  ∃ id entries entry shape input output, m.findOperation name = .ok id ∧
    m.paginatedOperations = .ok entries ∧ entry ∈ entries ∧ entry.operation = id ∧
    m.shapes.get? id = some (.operation shape) ∧ shape.input = some input ∧
    shape.output = some output ∧ m.Accepts id input output entry.paginated behavior op

/-! ### Resolution by steps -/

theorem resolve_of_binds {shape : OperationShape} {input output : String} {trait : PaginatedTrait}
    {behavior : EndBehavior} {op : PagedOperation} (found : m.findOperation name = .ok id)
    (held : m.shapes.get? id = some (.operation shape)) (hasInput : shape.input = some input)
    (hasOutput : shape.output = some output) (merged : m.paginatedTrait id = .ok trait)
    (bound : m.Binds id input output trait behavior op) : m.resolve name behavior = .ok op := by
  obtain ⟨inputText, givenInput, readInput⟩ := bound.input_token
  obtain ⟨outputText, givenOutput, readOutput⟩ := bound.output_token
  obtain ⟨flag, readFlag⟩ := bound.flag
  have here : m.shape id = .ok (.operation shape) := shape_eq_ok.2 held
  have made : PagedOperation.make (shortName id) op.inputToken op.outputToken =
      .ok ⟨shortName id, op.inputToken, op.outputToken, none, none, default, op.inputToken_top⟩ :=
    dif_pos op.inputToken_top
  rw [resolve, found]
  simp only [here, merged, hasInput, hasOutput, givenInput, givenOutput, orFail, readInput,
    bound.input_kind, readOutput, bound.output_kind, made, bound.items, bound.page_size, readFlag,
    bind, Except.bind, pure, Except.pure]
  rw [← bound.name, ← bound.end_behavior]

/-- Resolution gives an operation just if the operation is resolvable as that one, and otherwise a
configuration error. -/
theorem resolve_accepts (m : Model) (name : String) (behavior : EndBehavior) :
    (∀ op, m.resolve name behavior = .ok op ↔ m.Resolvable name behavior op) ∧
    ((∀ op, ¬ m.Resolvable name behavior op) →
      ∃ e, m.resolve name behavior = .error e ∧ e.isConfiguration = true) := by
  have accepts : ∀ op, m.resolve name behavior = .ok op ↔ m.Resolvable name behavior op := by
    intro op
    constructor
    · intro resolved
      obtain ⟨id, shape, input, output, trait, found, known, hasInput, hasOutput, merged, bound⟩ :=
        binds_of_resolve resolved
      obtain ⟨⟨shape', held⟩, again⟩ := findOperation_found found
      obtain rfl : shape' = shape := by
        simpa [operationShape?, found, held, Except.toOption, Shape.asOperation?] using known
      obtain ⟨entries, entry, listed, among, named, rfl⟩ := (paginatedTrait_eq_ok again).1 merged
      exact ⟨id, entries, entry, shape', input, output, found, listed, among, named, held, hasInput,
        hasOutput, binds_iff_accepts.1 bound⟩
    · rintro ⟨id, entries, entry, shape, input, output, found, listed, among, named, held, hasInput,
        hasOutput, accepted⟩
      have again := (findOperation_found found).2
      have merged := (paginatedTrait_eq_ok again).2 ⟨entries, entry, listed, among, named, rfl⟩
      exact resolve_of_binds found held hasInput hasOutput merged (binds_iff_accepts.2 accepted)
  refine ⟨accepts, fun refused => ?_⟩
  cases resolved : m.resolve name behavior with
  | ok op => exact absurd ((accepts op).1 resolved) (refused op)
  | error e => exact ⟨e, rfl, m.resolve_failsConfigured name behavior e resolved⟩

end Model

end Pagewise
