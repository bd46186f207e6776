import Pagewise.Model.Resolution
import Pagewise.Proofs.Document.Access

/-!
What a resolved operation is: every path it holds was read from the merged trait, walked through the
input or the output, and found at a shape of a fitting kind.
-/
namespace Pagewise

theorem bind_eq_ok {ε α β : Type} {x : Except ε α} {f : α → Except ε β} {b : β} :
    x >>= f = .ok b ↔ ∃ a, x = .ok a ∧ f a = .ok b := by
  cases x with
  | error e => simp [bind, Except.bind]
  | ok a => simp [bind, Except.bind]

theorem bind_congr_ok {ε α β : Type} {x : Except ε α} {f g : α → Except ε β}
    (same : ∀ a, x = .ok a → f a = g a) : x >>= f = x >>= g := by
  cases x with
  | error e => rfl
  | ok a => exact same a rfl

theorem pure_eq_ok {ε α : Type} {a b : α} : (pure a : Except ε α) = .ok b ↔ a = b := by
  simp [pure, Except.pure]

theorem Path.member_eq_ok {text : String} {p : Path} (h : Path.member text = .ok p) :
    Path.parse text = .ok p ∧ p.isTopLevel = true := by
  obtain ⟨q, parsed, h⟩ := bind_eq_ok.1 h
  split at h
  · next top =>
    obtain rfl := pure_eq_ok.1 h
    exact ⟨parsed, top⟩
  · cases h

namespace Model

variable {m : Model}

theorem orFail_eq_ok {α : Type} {value : Option α} {e : Error} {a : α} :
    orFail value e = .ok a ↔ value = some a := by
  cases value <;> simp [orFail]

theorem shape_eq_ok {id : String} {s : Shape} : m.shape id = .ok s ↔ m.shapes.get? id = some s := by
  rw [shape]
  cases m.shapes.get? id <;> simp

/-! ### Walks -/

def declared? (m : Model) (id name : String) : Option String :=
  (((m.shapes.get? id).bind Shape.members?).bind (·.get? name)).map ShapeMember.target

theorem walk_cons_eq_ok {path : Path} {segment current target : String} {rest : List String} :
    m.walk path (segment :: rest) current = .ok target ↔
      ∃ next, m.declared? current segment = some next ∧ m.walk path rest next = .ok target := by
  rw [walk, declared?, shape]
  cases m.shapes.get? current with
  | none => simp [bind, Except.bind]
  | some s =>
    simp only [bind, Except.bind, Option.bind]
    cases s.members? with
    | none => simp
    | some members =>
      simp only
      cases members.get? segment <;> simp

theorem expectKind_eq_ok {root : String} {path : Path} {allowed : List ShapeKind} :
    m.expectKind root path allowed = .ok () ↔
      ∃ target kind, m.memberTarget root path = .ok target ∧ m.kindOf target = .ok kind ∧
        kind ∈ allowed := by
  rw [expectKind]
  constructor
  · intro h
    obtain ⟨target, walked, h⟩ := bind_eq_ok.1 h
    obtain ⟨kind, known, h⟩ := bind_eq_ok.1 h
    split at h
    · next fits => exact ⟨target, kind, walked, known, List.contains_iff_mem.1 fits⟩
    · cases h
  · rintro ⟨target, kind, walked, known, fits⟩
    simp only [walked, known, bind, Except.bind]
    rw [if_pos (List.contains_iff_mem.2 fits)]
    rfl

/-- A walk has one end, so a path cannot be found at kinds that have nothing in common. -/
theorem kinds_meet {root : String} {path : Path} {these those : List ShapeKind}
    (h : m.expectKind root path these = .ok ()) (h' : m.expectKind root path those = .ok ()) :
    ∃ kind ∈ these, kind ∈ those := by
  obtain ⟨target, kind, walked, known, fits⟩ := expectKind_eq_ok.1 h
  obtain ⟨target', kind', walked', known', fits'⟩ := expectKind_eq_ok.1 h'
  obtain rfl : target = target' := Except.ok.inj (walked.symm.trans walked')
  obtain rfl : kind = kind' := Except.ok.inj (known.symm.trans known')
  exact ⟨kind, fits, fits'⟩

theorem optionalPath_eq_ok {read : String → Except Error Path} {root : String}
    {allowed : List ShapeKind} {text : Option String} {found : Option Path} :
    m.optionalPath read root allowed text = .ok found ↔
      (text = none ∧ found = none) ∨
      ∃ t p, text = some t ∧ found = some p ∧ read t = .ok p ∧
        m.expectKind root p allowed = .ok () := by
  cases text with
  | none => simp [optionalPath, eq_comm]
  | some t =>
    rw [optionalPath, bind_eq_ok]
    constructor
    · rintro ⟨p, parsed, h⟩
      obtain ⟨_, fits, h⟩ := bind_eq_ok.1 h
      obtain rfl := pure_eq_ok.1 h
      exact .inr ⟨t, p, rfl, rfl, parsed, fits⟩
    · rintro (⟨⟨⟩, _⟩ | ⟨_, p, ⟨⟩, rfl, parsed, fits⟩)
      refine ⟨p, parsed, ?_⟩
      rw [fits]
      rfl

/-! ### Resolution -/

def operationShape? (m : Model) (operation : String) : Option OperationShape :=
  (m.findOperation operation).toOption.bind fun id => (m.shapes.get? id).bind Shape.asOperation?

def outputOf? (m : Model) (operation : String) : Option String :=
  (m.operationShape? operation).bind OperationShape.output

/-- An operation is bound as its merged trait and the end behavior say, with every path checked
against the input or the output. -/
structure Binds (m : Model) (id input output : String) (trait : PaginatedTrait)
    (behavior : EndBehavior) (op : PagedOperation) : Prop where
  name : op.name = shortName id
  input_token : ∃ text, trait.inputToken = some text ∧ Path.member text = .ok op.inputToken
  input_kind : m.expectKind input op.inputToken tokenKinds = .ok ()
  output_token : ∃ text, trait.outputToken = some text ∧ Path.parse text = .ok op.outputToken
  output_kind : m.expectKind output op.outputToken tokenKinds = .ok ()
  items : m.optionalPath Path.parse output collectionKinds trait.items = .ok op.items
  page_size : m.optionalPath Path.member input [.integer] trait.pageSize = .ok op.pageSize
  flag : ∃ p, m.optionalPath Path.parse output [.boolean] behavior.flagMember? = .ok p
  end_behavior : op.endBehavior = behavior

theorem make_eq_ok {name : String} {inputToken outputToken : Path} {op : PagedOperation}
    (h : PagedOperation.make name inputToken outputToken = .ok op) :
    op.name = name ∧ op.inputToken = inputToken ∧ op.outputToken = outputToken := by
  rw [PagedOperation.make] at h
  split at h
  · cases h
    exact ⟨rfl, rfl, rfl⟩
  · cases h

theorem binds_of_resolve {operation : String} {behavior : EndBehavior} {op : PagedOperation}
    (h : m.resolve operation behavior = .ok op) :
    ∃ id shape input output trait, m.findOperation operation = .ok id ∧
      m.operationShape? operation = some shape ∧ shape.input = some input ∧
      shape.output = some output ∧ m.paginatedTrait id = .ok trait ∧
      m.Binds id input output trait behavior op := by
  -- The steps in the order of the resolution; what each one found is what the binding says.
  rw [resolve] at h
  obtain ⟨id, found, h⟩ := bind_eq_ok.1 h
  obtain ⟨s, here, h⟩ := bind_eq_ok.1 h
  obtain ⟨shape, rfl⟩ : ∃ shape, s = .operation shape := by
    cases s with
    | operation shape => exact ⟨shape, rfl⟩
    | _ =>
      obtain ⟨_, failed, _⟩ := bind_eq_ok.1 h
      cases failed
  obtain ⟨_, ⟨⟩, h⟩ := bind_eq_ok.1 h
  obtain ⟨trait, merged, h⟩ := bind_eq_ok.1 h
  obtain ⟨input, hasInput, h⟩ := bind_eq_ok.1 h
  obtain ⟨output, hasOutput, h⟩ := bind_eq_ok.1 h
  obtain ⟨inputText, givenInput, h⟩ := bind_eq_ok.1 h
  obtain ⟨inputToken, inputRead, h⟩ := bind_eq_ok.1 h
  obtain ⟨_, inputKind, h⟩ := bind_eq_ok.1 h
  obtain ⟨outputText, givenOutput, h⟩ := bind_eq_ok.1 h
  obtain ⟨outputToken, outputRead, h⟩ := bind_eq_ok.1 h
  obtain ⟨_, outputKind, h⟩ := bind_eq_ok.1 h
  obtain ⟨made, isMade, h⟩ := bind_eq_ok.1 h
  obtain ⟨items, itemsRead, h⟩ := bind_eq_ok.1 h
  obtain ⟨pageSize, pageSizeRead, h⟩ := bind_eq_ok.1 h
  obtain ⟨flag, flagRead, h⟩ := bind_eq_ok.1 h
  obtain rfl := pure_eq_ok.1 h
  obtain ⟨name, rfl, rfl⟩ := make_eq_ok isMade
  rw [orFail_eq_ok] at hasInput hasOutput givenInput givenOutput
  have known : m.operationShape? operation = some shape := by
    rw [operationShape?, found, Except.toOption, Option.bind_some, shape_eq_ok.1 here]
    rfl
  exact ⟨id, shape, input, output, trait, found, known, hasInput, hasOutput, merged,
    { name := name, input_token := ⟨inputText, givenInput, inputRead⟩, input_kind := inputKind,
      output_token := ⟨outputText, givenOutput, outputRead⟩, output_kind := outputKind,
      items := itemsRead, page_size := pageSizeRead, flag := ⟨flag, flagRead⟩,
      end_behavior := rfl }⟩

/-- The page size has a member of its own: it is an integer, and a token never is. -/
theorem Binds.pageSize_apart {id input output : String} {trait : PaginatedTrait}
    {behavior : EndBehavior} {op : PagedOperation} (h : m.Binds id input output trait behavior op)
    {size : Path} (sized : op.pageSize = some size) :
    size.isTopLevel = true ∧ size.top ≠ op.inputToken.top := by
  obtain ⟨_, absent⟩ | ⟨_, p, _, given, parsed, integer⟩ := optionalPath_eq_ok.1 h.page_size
  · rw [sized] at absent
    cases absent
  · obtain rfl : size = p := Option.some.inj (sized.symm.trans given)
    have top : size.isTopLevel = true := (Path.member_eq_ok parsed).2
    refine ⟨top, fun same => ?_⟩
    obtain rfl : size = op.inputToken := Path.eq_of_top_eq top op.inputToken_top same
    obtain ⟨kind, isInteger, isToken⟩ := kinds_meet integer h.input_kind
    rw [List.mem_singleton.1 isInteger] at isToken
    simp [tokenKinds] at isToken

/-! ### A listing of names -/

/-- An operation that takes a token and a page size, and gives names, the next token and a flag. -/
def listing : Model where
  version := "2.0"
  shapes := .ofList [
    ("example#List", .operation ⟨some "example#ListInput", some "example#ListOutput",
      .ofList [(PaginatedTrait.id, PaginatedTrait.toDocument
        ⟨some "Token", some "Paging.Next", some "Names", some "Size"⟩)]⟩),
    ("example#ListInput", .record ⟨.ofList [("Token", ⟨"smithy.api#String", .nil⟩),
      ("Size", ⟨"smithy.api#Integer", .nil⟩)], .nil⟩),
    ("example#ListOutput", .record ⟨.ofList [("Names", ⟨"example#Names", .nil⟩),
      ("Paging", ⟨"example#Paging", .nil⟩)], .nil⟩),
    ("example#Names", .list ⟨⟨"smithy.api#String", .nil⟩, .nil⟩),
    ("example#Paging", .record ⟨.ofList [("More", ⟨"smithy.api#Boolean", .nil⟩),
      ("Next", ⟨"smithy.api#String", .nil⟩)], .nil⟩)]

def listNames : PagedOperation where
  name := "List"
  inputToken := ⟨["Token"], by decide, by decide⟩
  outputToken := ⟨["Paging", "Next"], by decide, by decide⟩
  items := some ⟨["Names"], by decide, by decide⟩
  pageSize := some ⟨["Size"], by decide, by decide⟩
  endBehavior := .truncationMember "Paging.More"
  inputToken_top := rfl

theorem resolve_listing :
    listing.resolve "List" (.truncationMember "Paging.More") = .ok listNames := rfl

end Model

end Pagewise
