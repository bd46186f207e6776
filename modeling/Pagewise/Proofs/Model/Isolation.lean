import Pagewise.Proofs.Model.Acceptance

/-!
How far operations are kept apart. Resolution of one operation goes through the listing of all, so it
is the same in two models that differ in the traits of another operation, unless the entry of that one
is malformed in just one of them.
-/
namespace Pagewise.Model

/-- A model, and the same one with other traits on one operation. -/
structure TraitsChanged (m : Model) (b : String) (m' : Model) : Prop where
  others : ∀ id, id ≠ b → m.shapes.get? id = m'.shapes.get? id
  itself : ∃ (shape : OperationShape) (traits : Traits),
    m.shapes.get? b = some (.operation shape) ∧
      m'.shapes.get? b = some (.operation { shape with traits := traits })

namespace TraitsChanged

variable {m m' : Model} {a b : String}

variable (h : m.TraitsChanged b m')
include h

theorem bindings : m.SameBindings m' := by
  obtain ⟨shape, traits, held, held'⟩ := h.itself
  constructor
  case services =>
    intro id s
    by_cases here : id = b
    · simp [here, held, held']
    · rw [h.others id here]
  case resources =>
    intro id r
    by_cases here : id = b
    · simp [here, held, held']
    · rw [h.others id here]

/-! ### Walks and kinds, which see no traits -/

theorem kindOf_eq (id : String) : m.kindOf id = m'.kindOf id := by
  obtain ⟨shape, traits, held, held'⟩ := h.itself
  by_cases here : id = b
  · rw [kindOf, kindOf, here, held, held']
    rfl
  · rw [kindOf, kindOf, h.others id here]

theorem walk_eq (path : Path) (segments : List String) (id : String) :
    m.walk path segments id = m'.walk path segments id := by
  obtain ⟨shape, traits, held, held'⟩ := h.itself
  induction segments generalizing id with
  | nil => rfl
  | cons segment rest ih =>
    by_cases here : id = b
    · rw [walk, walk, Model.shape, Model.shape, here, held, held']
      rfl
    · simp only [walk, Model.shape, h.others id here, ih]

theorem expectKind_eq (root : String) (path : Path) (allowed : List ShapeKind) :
    m.expectKind root path allowed = m'.expectKind root path allowed := by
  simp only [expectKind, memberTarget, h.walk_eq, h.kindOf_eq]

theorem optionalPath_eq (read : String → Except Error Path) (root : String)
    (allowed : List ShapeKind) (text : Option String) :
    m.optionalPath read root allowed text = m'.optionalPath read root allowed text := by
  cases text with
  | none => rfl
  | some text => simp only [optionalPath, h.expectKind_eq]

/-! ### Listings -/

theorem findOperation_eq (absolute : isAbsolute a = true) (other : a ≠ b) :
    m.findOperation a = m'.findOperation a := by
  rw [findOperation, findOperation, if_pos absolute, if_pos absolute, h.others a other]

theorem malformedEntry_iff (other : a ≠ b) : m.MalformedEntry a ↔ m'.MalformedEntry a :=
  h.bindings.malformedEntry (h.others a other)

theorem paginatedOperations_eq_error_iff (alike : m.MalformedEntry b ↔ m'.MalformedEntry b)
    (e : Error) : m.paginatedOperations = .error e ↔ m'.paginatedOperations = .error e := by
  have all_alike : ∀ id, m.MalformedEntry id ↔ m'.MalformedEntry id := by
    intro id
    by_cases here : id = b
    · rw [here, alike]
    · exact h.malformedEntry_iff here
  simp only [paginatedOperations_eq_error, all_alike]

theorem find?_eq {entries entries' : List PaginatedEntry} (other : a ≠ b)
    (listed : m.paginatedOperations = .ok entries)
    (listed' : m'.paginatedOperations = .ok entries') :
    (entries.find? fun e => e.operation == a) = entries'.find? fun e => e.operation == a := by
  apply Option.ext
  intro entry
  rw [find?_eq_some listed, find?_eq_some listed', mem_paginatedOperations listed,
    mem_paginatedOperations listed']
  apply and_congr_left
  rintro rfl
  simp only [h.others _ other, h.bindings.entryOf_eq]

theorem paginatedTrait_eq (absolute : isAbsolute a = true) (other : a ≠ b)
    (alike : m.MalformedEntry b ↔ m'.MalformedEntry b) :
    m.paginatedTrait a = m'.paginatedTrait a := by
  rw [paginatedTrait, paginatedTrait, h.findOperation_eq absolute other]
  refine bind_congr_ok fun id found => ?_
  obtain ⟨rfl, _⟩ := (findOperation_absolute absolute).1 found
  have errors := h.paginatedOperations_eq_error_iff alike
  cases listed : m.paginatedOperations with
  | error e => simp only [(errors e).1 listed]
  | ok entries =>
    cases listed' : m'.paginatedOperations with
    | error e => cases listed.symm.trans ((errors e).2 listed')
    | ok entries' => simp only [bind, Except.bind, h.find?_eq other listed listed']

theorem resolve_eq (absolute : isAbsolute a = true) (other : a ≠ b)
    (alike : m.MalformedEntry b ↔ m'.MalformedEntry b) (behavior : EndBehavior) :
    m.resolve a behavior = m'.resolve a behavior := by
  have same_trait := h.paginatedTrait_eq absolute other alike
  have same_shape : m.shape a = m'.shape a := by
    rw [Model.shape, Model.shape, h.others a other]
  rw [resolve, resolve, h.findOperation_eq absolute other]
  refine bind_congr_ok fun id found => ?_
  obtain ⟨rfl, _⟩ := (findOperation_absolute absolute).1 found
  simp only [same_shape, same_trait, h.expectKind_eq, h.optionalPath_eq]

end TraitsChanged

theorem resolve_of_malformed {m : Model} {a b : String} (absolute : isAbsolute a = true)
    {shape : OperationShape} (held : m.shapes.get? a = some (.operation shape))
    (bad : m.MalformedEntry b) (behavior : EndBehavior) :
    m.resolve a behavior = .error traitError := by
  have found : m.findOperation a = .ok a := (findOperation_absolute absolute).2 ⟨rfl, shape, held⟩
  have here : m.shape a = .ok (.operation shape) := shape_eq_ok.2 held
  have failed : m.paginatedOperations = .error traitError :=
    paginatedOperations_eq_error.2 ⟨rfl, b, bad⟩
  have unmerged : m.paginatedTrait a = .error traitError := by
    simp only [paginatedTrait, found, failed, bind, Except.bind]
  simp only [resolve, found, here, unmerged, bind, Except.bind]

/-- An operation resolves in the same way whatever the traits of another one, as long as the entry of
that one is malformed in both models or in neither. Where it is malformed, every operation fails with
the error of the listing. -/
theorem resolve_isolated {m m' : Model} {a b : String} (changed : m.TraitsChanged b m')
    (absolute : isAbsolute a = true) (other : a ≠ b) (behavior : EndBehavior) :
    ((m.MalformedEntry b ↔ m'.MalformedEntry b) → m.resolve a behavior = m'.resolve a behavior) ∧
    ((∀ shape, m.shapes.get? a ≠ some (.operation shape)) →
      m.resolve a behavior = m'.resolve a behavior) ∧
    ∀ shape, m.shapes.get? a = some (.operation shape) →
      (m.MalformedEntry b → m.resolve a behavior = .error traitError) ∧
      (m'.MalformedEntry b → m'.resolve a behavior = .error traitError) := by
  refine ⟨fun alike => changed.resolve_eq absolute other alike behavior, fun unheld => ?_,
    fun shape held => ⟨fun bad => ?_, fun bad => ?_⟩⟩
  · have unfound : ∀ id, m.findOperation a ≠ .ok id := by
      intro id found
      obtain ⟨_, shape, held⟩ := (findOperation_absolute absolute).1 found
      exact unheld shape held
    cases failed : m.findOperation a with
    | ok id => exact absurd failed (unfound id)
    | error e =>
      have failed' := failed
      rw [changed.findOperation_eq absolute other] at failed'
      simp only [resolve, failed, failed', bind, Except.bind]
  · exact resolve_of_malformed absolute held bad behavior
  · have held' := held
    rw [changed.others a other] at held'
    exact resolve_of_malformed absolute held' bad behavior

/-! ### A listing with another operation -/

def beside (m : Model) (id : String) (shape : OperationShape) : Model where
  version := m.version
  shapes := m.shapes.insert id (.operation shape)

theorem traitsChanged_beside (m : Model) (id : String) (shape : OperationShape) (traits : Traits) :
    (m.beside id shape).TraitsChanged id (m.beside id { shape with traits := traits }) where
  others name other := by
    rw [beside, beside, Table.get?_insert, Table.get?_insert, if_neg other, if_neg other]
  itself := by
    refine ⟨shape, traits, ?_, ?_⟩
    · rw [beside, Table.get?_insert, if_pos rfl]
    · rw [beside, Table.get?_insert, if_pos rfl]

def listingAndCount (value : Document) : Model :=
  listing.beside "example#Count" ⟨none, none, .ofList [(PaginatedTrait.id, value)]⟩

theorem listing_isolated :
    let m := listingAndCount .emptyObject
    let m' := listingAndCount (.ofPairs [("items", .string "Counts")])
    let behavior := EndBehavior.truncationMember "Paging.More"
    m.TraitsChanged "example#Count" m' ∧ isAbsolute "example#List" = true ∧
      "example#List" ≠ "example#Count" ∧
      m'.resolve "example#List" behavior = m.resolve "example#List" behavior ∧
      m.resolve "example#List" behavior = .ok listNames := by
  intro m m' behavior
  have changed : m.TraitsChanged "example#Count" m' := traitsChanged_beside listing _ _ _
  have absolute : isAbsolute "example#List" = true := by decide
  have other : "example#List" ≠ "example#Count" := by decide
  have good : ¬ m.MalformedEntry "example#Count" := not_malformedEntry rfl
  have good' : ¬ m'.MalformedEntry "example#Count" := not_malformedEntry rfl
  have same := (resolve_isolated changed absolute other behavior).1 (iff_of_false good good')
  exact ⟨changed, absolute, other, same.symm, rfl⟩

/-- A value that cannot be read keeps the listing of names from being resolved. -/
theorem listing_not_isolated :
    let m := listingAndCount .emptyObject
    let m' := listingAndCount (.ofPairs [("inputToken", .ofNat 5)])
    let behavior := EndBehavior.truncationMember "Paging.More"
    m.TraitsChanged "example#Count" m' ∧ isAbsolute "example#List" = true ∧
      "example#List" ≠ "example#Count" ∧
      m.resolve "example#List" behavior = .ok listNames ∧
      m'.resolve "example#List" behavior = .error traitError :=
  ⟨traitsChanged_beside listing _ _ _, by decide, by decide, rfl, rfl⟩

end Pagewise.Model
