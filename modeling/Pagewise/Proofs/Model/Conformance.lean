import Pagewise.Operation.Paging
import Pagewise.Proofs.Model.Resolution

/-!
Documents that conform to the shapes of a model. A walk through the shapes and a reading along the
same path stay together, so what a resolved operation reads from a conforming output is of the form
that its paths were checked for.
-/
namespace Pagewise

def ShapeKind.admits : ShapeKind → Document → Bool
  | .record, .object _ | .union, .object _ | .map, .object _ => true
  | .list, .array _ => true
  | .string, .string _ => true
  | .boolean, .bool _ => true
  | .integer, .number (.int _) => true
  | .operation, _ | .service, _ | .other, _ => true
  | _, _ => false

/-- A value has the form of the kind of its shape, and each of its members that the shape declares
is null or conforms to what the member targets. -/
inductive Conforms (m : Model) : String → Document → Prop where
  | intro {id : String} {d : Document}
    (form : ∀ kind, m.kindOf id = .ok kind → kind.admits d = true)
    (members : ∀ name target value, m.declared? id name = some target →
      d.member? name = some value → value.isNull = false → Conforms m target value) :
    Conforms m id d

namespace Conforms

variable {m : Model} {id : String} {d : Document}

theorem admits (h : Conforms m id d) {kind : ShapeKind} (known : m.kindOf id = .ok kind) :
    kind.admits d = true := by
  obtain ⟨form, _⟩ := h
  exact form kind known

theorem member (h : Conforms m id d) {name target : String} {value : Document}
    (declared : m.declared? id name = some target) (found : d.member? name = some value)
    (present : value.isNull = false) : Conforms m target value := by
  obtain ⟨_, members⟩ := h
  exact members name target value declared found present

theorem readAt {path : Path} {segments : List String} {target : String} {value : Document}
    (h : Conforms m id d) (walked : m.walk path segments id = .ok target)
    (found : Path.readAt segments d = some value) (present : value.isNull = false) :
    Conforms m target value := by
  induction segments generalizing id d with
  | nil =>
    obtain rfl : id = target := Except.ok.inj walked
    obtain rfl : d = value := Option.some.inj found
    exact h
  | cons name rest ih =>
    obtain ⟨next, declared, walked⟩ := Model.walk_cons_eq_ok.1 walked
    cases d with
    | object ms =>
      obtain ⟨child, here, found⟩ := Option.bind_eq_some_iff.1 found
      have full : child.isNull = false := by
        -- A null has no members, and as the last value it does not count.
        cases child with
        | null =>
          cases rest with
          | nil => exact Option.some.inj found ▸ present
          | cons => cases found
        | _ => rfl
      exact ih (h.member declared here full) walked found
    | _ => cases found

theorem read (h : Conforms m id d) {path : Path} {allowed : List ShapeKind}
    (checked : m.expectKind id path allowed = .ok ()) {value : Document}
    (found : path.read d = some value) : ∃ kind ∈ allowed, kind.admits value = true := by
  obtain ⟨target, kind, walked, known, fits⟩ := Model.expectKind_eq_ok.1 checked
  have reached : Conforms m target value :=
    h.readAt walked (Path.readAt_of_read found) (Path.isNull_of_read found)
  exact ⟨kind, fits, reached.admits known⟩

end Conforms

/-! ### Whether a document conforms -/

namespace Model

def admits (m : Model) (id : String) (d : Document) : Bool :=
  (m.kindOf id).toOption.all (·.admits d)

theorem admits_iff {m : Model} {id : String} {d : Document} :
    m.admits id d = true ↔ ∀ kind, m.kindOf id = .ok kind → kind.admits d = true := by
  rw [admits]
  cases m.kindOf id <;> simp [Except.toOption]

mutual

def accepts (m : Model) (id : String) : Document → Bool
  | .object ms => m.admits id (.object ms) && m.acceptsMembers id ms
  | .null => m.admits id .null
  | .bool b => m.admits id (.bool b)
  | .number n => m.admits id (.number n)
  | .string s => m.admits id (.string s)
  | .array items => m.admits id (.array items)

def acceptsMembers (m : Model) (id : String) : {bound : Option String} → Members bound → Bool
  | _, .nil => true
  | _, .cons name _ value rest =>
    (match m.declared? id name with
      | some target => value.isNull || m.accepts target value
      | none => true) && m.acceptsMembers id rest

end

end Model

theorem Conforms.iff {m : Model} {id : String} {d : Document} :
    Conforms m id d ↔ m.admits id d = true ∧
      ∀ name target value, m.declared? id name = some target →
        d.member? name = some value → value.isNull = false → Conforms m target value := by
  rw [Model.admits_iff]
  constructor
  · rintro ⟨form, members⟩
    exact ⟨form, members⟩
  · rintro ⟨form, members⟩
    exact ⟨form, members⟩

theorem Conforms.iff_of_no_members {m : Model} {id : String} {d : Document}
    (h : ∀ name, d.member? name = none) : Conforms m id d ↔ m.admits id d = true := by
  rw [Conforms.iff]
  simp [h]

mutual

theorem Model.accepts_iff (m : Model) : (id : String) → (d : Document) →
    (m.accepts id d = true ↔ Conforms m id d)
  | id, .object ms => by
    rw [accepts, Bool.and_eq_true, Conforms.iff, acceptsMembers_iff m id ms]
    rfl
  | id, .null => by rw [accepts, Conforms.iff_of_no_members fun _ => rfl]
  | id, .bool _ => by rw [accepts, Conforms.iff_of_no_members fun _ => rfl]
  | id, .number _ => by rw [accepts, Conforms.iff_of_no_members fun _ => rfl]
  | id, .string _ => by rw [accepts, Conforms.iff_of_no_members fun _ => rfl]
  | id, .array _ => by rw [accepts, Conforms.iff_of_no_members fun _ => rfl]

theorem Model.acceptsMembers_iff (m : Model) (id : String) :
    {bound : Option String} → (ms : Members bound) →
    (m.acceptsMembers id ms = true ↔ ∀ name target value, m.declared? id name = some target →
      ms.get? name = some value → value.isNull = false → Conforms m target value)
  | _, .nil => by simp [acceptsMembers]
  | _, .cons key above value rest => by
    rw [acceptsMembers, Bool.and_eq_true, acceptsMembers_iff m id rest]
    constructor
    · rintro ⟨first, others⟩ name target v declared found present
      obtain ⟨rfl, rfl⟩ | later := Members.get?_cons_eq_some.1 found
      · rw [declared] at first
        simp only [present, Bool.false_or] at first
        exact (accepts_iff m target value).1 first
      · exact others name target v declared later present
    · intro all
      constructor
      · cases declared : m.declared? id key with
        | none => rfl
        | some target =>
          cases present : value.isNull with
          | true => rfl
          | false =>
            simp only [Bool.false_or]
            exact (accepts_iff m target value).2
              (all key target value declared (Members.get?_cons_eq_some.2 (.inl ⟨rfl, rfl⟩)) present)
      · intro name target v declared found present
        exact all name target v declared (Members.get?_cons_eq_some.2 (.inr found)) present

end

instance (m : Model) (id : String) (d : Document) : Decidable (Conforms m id d) :=
  decidable_of_iff _ (m.accepts_iff id d)

/-! ### Forms of values that were checked for -/

theorem string_or_object {d : Document} (h : ∃ kind ∈ Model.tokenKinds, kind.admits d = true) :
    (∃ s, d = .string s) ∨ ∃ ms, d = .object ms := by
  cases d <;> simp_all [Model.tokenKinds, ShapeKind.admits]

theorem array_or_object {d : Document} (h : ∃ kind ∈ Model.collectionKinds, kind.admits d = true) :
    (∃ items, d = .array items) ∨ ∃ ms, d = .object ms := by
  cases d <;> simp_all [Model.collectionKinds, ShapeKind.admits]

theorem bool_of_boolean {d : Document} (h : ∃ kind ∈ [ShapeKind.boolean], kind.admits d = true) :
    ∃ b, d = .bool b := by
  cases d <;> simp_all [ShapeKind.admits]

namespace DocumentPage

theorem items?_eq {page : DocumentPage} {p : Path} (h : page.operation.items = some p) :
    page.items? = (p.read page.body).map itemsOf := by
  rw [items?, h, Option.bind_some, Path.fst_take]

/-- What a page gives is of the forms that its operation was checked for: a token is text or an
object, the items are those of an array or an object, and the flag is a boolean of the output. -/
structure Fits (page : DocumentPage) (m : Model) (output : String) : Prop where
  token : ∀ token, CursorResponse.nextCursor page = some token →
    (∃ s, token = .string s) ∨ ∃ ms, token = .object ms
  items : ∀ p, page.operation.items = some p →
    (p.read page.body = none ∧ page.items? = none) ∨
    (∃ items, p.read page.body = some (.array items) ∧ page.items? = some items) ∨
    ∃ ms, p.read page.body = some (.object ms) ∧
      page.items? = some (ms.toList.map fun e => .ofPairs [("key", .string e.1), ("value", e.2)])
  flag : ∀ member, page.operation.endBehavior = .truncationMember member →
    ∃ p, Path.parse member = .ok p ∧ m.expectKind output p [.boolean] = .ok () ∧
      page.memberFlag member = (p.read page.body).bind flagOf ∧
      ∀ b, page.memberFlag member = some b ↔ p.read page.body = some (.bool b)

variable {m : Model} {output : String} {body : Document} {op : PagedOperation}

theorem items?_of_conforms (h : Conforms m output body) {p : Path} (given : op.items = some p)
    (checked : m.expectKind output p Model.collectionKinds = .ok ()) :
    (p.read body = none ∧ (mk op body).items? = none) ∨
    (∃ items, p.read body = some (.array items) ∧ (mk op body).items? = some items) ∨
    ∃ ms, p.read body = some (.object ms) ∧ (mk op body).items? =
      some (ms.toList.map fun e => .ofPairs [("key", .string e.1), ("value", e.2)]) := by
  have read : (mk op body).items? = (p.read body).map itemsOf := items?_eq given
  rw [read]
  cases found : p.read body with
  | none => exact .inl ⟨rfl, rfl⟩
  | some value =>
    obtain ⟨items, rfl⟩ | ⟨ms, rfl⟩ := array_or_object (h.read checked found)
    · exact .inr (.inl ⟨items, rfl, rfl⟩)
    · exact .inr (.inr ⟨ms, rfl, rfl⟩)

theorem memberFlag_of_parse {member : String} {p : Path} (parsed : Path.parse member = .ok p) :
    (mk op body).memberFlag member = (p.read body).bind flagOf := by
  rw [memberFlag, parsed]

theorem memberFlag_of_conforms (h : Conforms m output body) {member : String} {p : Path}
    (parsed : Path.parse member = .ok p) (checked : m.expectKind output p [.boolean] = .ok ())
    (b : Bool) : (mk op body).memberFlag member = some b ↔ p.read body = some (.bool b) := by
  rw [memberFlag_of_parse parsed]
  cases found : p.read body with
  | none => simp
  | some value =>
    obtain ⟨held, rfl⟩ := bool_of_boolean (h.read checked found)
    simp [flagOf]

theorem fits_of_binds {id input : String} {trait : PaginatedTrait} {behavior : EndBehavior}
    (bound : m.Binds id input output trait behavior op) (h : Conforms m output body) :
    (mk op body).Fits m output where
  token token found := string_or_object (h.read bound.output_kind found)
  items p given := by
    obtain ⟨_, absent⟩ | ⟨_, q, _, found, _, checked⟩ := Model.optionalPath_eq_ok.1 bound.items
    · exact absurd (absent.symm.trans given) (by simp)
    · obtain rfl : q = p := Option.some.inj (found.symm.trans given)
      exact items?_of_conforms h given checked
  flag member chosen := by
    obtain rfl : behavior = .truncationMember member := bound.end_behavior.symm.trans chosen
    obtain ⟨_, read⟩ := bound.flag
    obtain ⟨⟨⟩, _⟩ | ⟨_, p, ⟨⟩, _, parsed, checked⟩ := Model.optionalPath_eq_ok.1 read
    exact ⟨p, parsed, checked, memberFlag_of_parse parsed,
      memberFlag_of_conforms h parsed checked⟩

end DocumentPage

namespace Model

/-- Whatever resolves, an output that conforms to the shape of the operation's output gives a page
that fits. -/
theorem resolve_fits {m : Model} {operation : String} {behavior : EndBehavior}
    {op : PagedOperation} (resolved : m.resolve operation behavior = .ok op) :
    op.endBehavior = behavior ∧ ∃ output, m.outputOf? operation = some output ∧
      ∀ body, Conforms m output body → (DocumentPage.mk op body).Fits m output := by
  obtain ⟨_, shape, _, output, _, _, known, _, hasOutput, _, bound⟩ := binds_of_resolve resolved
  refine ⟨bound.end_behavior, output, ?_, fun body => DocumentPage.fits_of_binds bound⟩
  rw [outputOf?, known]
  exact hasOutput

theorem listing_fits :
    let body : Document := .ofPairs [("Names", .array [.string "a"]),
      ("Paging", .ofPairs [("More", .bool true), ("Next", .string "b")])]
    listing.resolve "List" (.truncationMember "Paging.More") = .ok listNames ∧
      Conforms listing "example#ListOutput" body ∧
      (DocumentPage.mk listNames body).Fits listing "example#ListOutput" := by
  intro body
  have conforms : Conforms listing "example#ListOutput" body := by decide
  obtain ⟨_, output, isOutput, fits⟩ := resolve_fits resolve_listing
  obtain rfl : "example#ListOutput" = output := Option.some.inj isOutput
  exact ⟨resolve_listing, conforms, fits body conforms⟩

end Model

end Pagewise
