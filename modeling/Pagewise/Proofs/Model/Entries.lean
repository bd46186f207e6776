import Pagewise.Proofs.Model.Listing
import Pagewise.Proofs.Model.Ownership

/-!
The paged operations of a model are told by the model alone: an operation is listed if it carries the
trait, its owner is the least service that binds it, and what it leaves unset is the owner's. The
listing fails only if a trait that goes into an entry has a malformed value.
-/
namespace Pagewise

def PaginatedTrait.fields : List (PaginatedTrait → Option String) :=
  [inputToken, outputToken, items, pageSize]

theorem PaginatedTrait.field_merge {field : PaginatedTrait → Option String} (h : field ∈ fields)
    (own defaults : PaginatedTrait) :
    field (own.merge defaults) = (field own).or (field defaults) := by
  simp only [fields, List.mem_cons, List.not_mem_nil, or_false] at h
  rcases h with rfl | rfl | rfl | rfl <;> simp [merge, Option.orElse_eq_or]

theorem PaginatedTrait.field_default {field : PaginatedTrait → Option String} (h : field ∈ fields) :
    field default = none := by
  simp only [fields, List.mem_cons, List.not_mem_nil, or_false] at h
  rcases h with rfl | rfl | rfl | rfl <;> rfl

namespace Model

variable {m m' : Model} {id : String}

/-! ### Values of the trait -/

def Carries (traits : Traits) : Prop := (traits.get? PaginatedTrait.id).isSome = true

def Malformed (traits : Traits) : Prop :=
  ∃ value, traits.get? PaginatedTrait.id = some value ∧ PaginatedTrait.ofDocument? value = none

def carried? (traits : Traits) : Option PaginatedTrait :=
  (traits.get? PaginatedTrait.id).bind PaginatedTrait.ofDocument?

def traitError : Error := .malformedModel "malformed paginated trait"

theorem paginatedIn_of_malformed {traits : Traits} (h : Malformed traits) :
    paginatedIn traits = .error traitError := by
  obtain ⟨value, held, unread⟩ := h
  simp only [paginatedIn, held, unread]
  rfl

theorem paginatedIn_of_not_malformed {traits : Traits} (h : ¬ Malformed traits) :
    paginatedIn traits = .ok (carried? traits) := by
  cases held : traits.get? PaginatedTrait.id with
  | none => simp [paginatedIn, carried?, held]
  | some value =>
    cases read : PaginatedTrait.ofDocument? value with
    | none => exact absurd ⟨value, held, read⟩ h
    | some t => simp [paginatedIn, carried?, held, read]

theorem carries_iff {traits : Traits} (h : ¬ Malformed traits) :
    Carries traits ↔ ∃ own, carried? traits = some own := by
  cases held : traits.get? PaginatedTrait.id with
  | none => simp [Carries, carried?, held]
  | some value =>
    cases read : PaginatedTrait.ofDocument? value with
    | none => exact absurd ⟨value, held, read⟩ h
    | some t => simp [Carries, carried?, held, read]

/-! ### Entries -/

def serviceTrait? (m : Model) (service : String) : Option PaginatedTrait :=
  ((m.shapes.get? service).bind Shape.asService?).bind fun s => carried? s.traits

/-- An entry has an operation of the model that carries the trait, and its owner; each field of the
trait is the operation's own, or else the owner's. -/
def Describes (m : Model) (entry : PaginatedEntry) : Prop :=
  ∃ shape own, m.shapes.get? entry.operation = some (.operation shape) ∧
    carried? shape.traits = some own ∧ m.OwnedBy entry.operation entry.service ∧
    ∀ field ∈ PaginatedTrait.fields,
      field entry.paginated = (field own).or ((entry.service.bind m.serviceTrait?).bind field)

def Paged (m : Model) (id : String) : Prop :=
  ∃ shape, m.shapes.get? id = some (.operation shape) ∧ Carries shape.traits

/-- The own trait of an operation is malformed, or, if it carries one, that of its owner. -/
def MalformedEntry (m : Model) (id : String) : Prop :=
  ∃ shape, m.shapes.get? id = some (.operation shape) ∧ (Malformed shape.traits ∨
    Carries shape.traits ∧ ∃ service s, m.Owns service id ∧
      m.shapes.get? service = some (.service s) ∧ Malformed s.traits)

theorem entryOf_of_malformed {shape : OperationShape}
    (held : m.shapes.get? id = some (.operation shape)) (h : m.MalformedEntry id) :
    m.entryOf id shape = .error traitError := by
  obtain ⟨shape', held', bad⟩ := h
  obtain rfl : shape = shape' := by simpa [held] using held'
  by_cases own_bad : Malformed shape.traits
  · simp only [entryOf, paginatedIn_of_malformed own_bad, bind, Except.bind]
  · obtain ⟨carries, service, s, owns, is, service_bad⟩ := bad.resolve_left own_bad
    obtain ⟨own, read⟩ := (carries_iff own_bad).1 carries
    have owner : m.ownerOf id = some (service, s) := by
      cases found : m.ownerOf id with
      | none => exact absurd owns.bound (ownerOf_eq_none found service)
      | some owner =>
        obtain ⟨service', s'⟩ := owner
        obtain ⟨is', owns'⟩ := ownerOf_eq_some found
        obtain rfl := owns.unique owns'
        obtain rfl : s = s' := by simpa [is] using is'
        rfl
    simp only [entryOf, paginatedIn_of_not_malformed own_bad, read, owner,
      paginatedIn_of_malformed service_bad, bind, Except.bind]

theorem entryOf_of_not_malformed {shape : OperationShape}
    (held : m.shapes.get? id = some (.operation shape)) (h : ¬ m.MalformedEntry id) :
    (¬ Carries shape.traits ∧ m.entryOf id shape = .ok none) ∨
      Carries shape.traits ∧ ∃ entry, m.entryOf id shape = .ok (some entry) ∧
        entry.operation = id ∧ m.Describes entry := by
  have own_good : ¬ Malformed shape.traits := fun bad => h ⟨shape, held, .inl bad⟩
  by_cases carries : Carries shape.traits
  · obtain ⟨own, read⟩ := (carries_iff own_good).1 carries
    refine .inr ⟨carries, ?_⟩
    simp only [entryOf, paginatedIn_of_not_malformed own_good, read, bind, Except.bind]
    have owned := m.ownedBy_ownerOf id
    cases found : m.ownerOf id with
    | none =>
      rw [found] at owned
      exact ⟨_, rfl, rfl, shape, own, held, read, owned, by simp⟩
    | some owner =>
      obtain ⟨service, s⟩ := owner
      rw [found] at owned
      have is := (ownerOf_eq_some found).1
      have service_good : ¬ Malformed s.traits := fun bad =>
        h ⟨shape, held, .inr ⟨carries, service, s, owned, is, bad⟩⟩
      simp only [paginatedIn_of_not_malformed service_good]
      refine ⟨_, rfl, rfl, shape, own, held, read, owned, fun field listed => ?_⟩
      have service_trait : m.serviceTrait? service = carried? s.traits := by
        simp [serviceTrait?, is, Shape.asService?]
      rw [PaginatedTrait.field_merge listed, Option.bind_some, service_trait]
      cases carried? s.traits with
      | none => rw [Option.getD_none, PaginatedTrait.field_default listed, Option.bind_none]
      | some defaults => rfl
  · refine .inl ⟨carries, ?_⟩
    have unread : carried? shape.traits = none := by
      simpa [carries_iff own_good, Option.eq_none_iff_forall_ne_some] using carries
    simp only [entryOf, paginatedIn_of_not_malformed own_good, unread, bind, Except.bind]
    rfl

/-! ### The listing -/

def entryAt (m : Model) (e : String × Shape) : Except Error (Option PaginatedEntry) :=
  match e.2.asOperation? with
  | some operation => m.entryOf e.1 operation
  | none => .ok none

theorem paginatedOperations_eq (m : Model) :
    m.paginatedOperations = (m.shapes.entries.mapM m.entryAt >>= fun found =>
      pure (Ordered.sortOn PaginatedEntry.operation (found.filterMap fun entry => entry))) := rfl

theorem entryAt_eq_error {s : Shape} {e : Error} (held : m.shapes.get? id = some s) :
    m.entryAt (id, s) = .error e ↔ e = traitError ∧ m.MalformedEntry id := by
  cases s with
  | operation shape =>
    change m.entryOf id shape = .error e ↔ _
    by_cases bad : m.MalformedEntry id
    · simp [entryOf_of_malformed held bad, bad, eq_comm]
    · obtain ⟨_, is⟩ | ⟨_, entry, is, _⟩ := entryOf_of_not_malformed held bad <;> simp [is, bad]
  | _ => simp [entryAt, Shape.asOperation?, MalformedEntry, held]

theorem paginatedOperations_eq_error {e : Error} :
    m.paginatedOperations = .error e ↔ e = traitError ∧ ∃ id, m.MalformedEntry id := by
  rw [paginatedOperations_eq]
  cases found : m.shapes.entries.mapM m.entryAt with
  | error e' =>
    obtain ⟨⟨id, s⟩, among, here⟩ := exists_of_mapM_eq_error found
    obtain ⟨rfl, bad⟩ := (entryAt_eq_error (Table.get?_eq_some.2 among)).1 here
    simp only [bind, Except.bind, Except.error.injEq, eq_comm]
    exact (and_iff_left ⟨id, bad⟩).symm
  | ok entries =>
    have good : ∀ id, ¬ m.MalformedEntry id := by
      rintro id ⟨shape, held, bad⟩
      have among : (id, .operation shape) ∈ m.shapes.entries := Table.get?_eq_some.1 held
      obtain ⟨entry, here⟩ := exists_of_mapM_eq_ok found among
      have failed : m.entryAt (id, .operation shape) = .error traitError :=
        (entryAt_eq_error held).2 ⟨rfl, shape, held, bad⟩
      cases here.symm.trans failed
    simp [good, bind, Except.bind, pure, Except.pure]

theorem mem_paginatedOperations {entries : List PaginatedEntry}
    (h : m.paginatedOperations = .ok entries) {entry : PaginatedEntry} :
    entry ∈ entries ↔ ∃ shape, m.shapes.get? entry.operation = some (.operation shape) ∧
      m.entryOf entry.operation shape = .ok (some entry) := by
  rw [paginatedOperations_eq_ok h, Ordered.mem_sortOn, List.mem_filterMap]
  constructor
  · rintro ⟨⟨id, s⟩, among, made⟩
    obtain ⟨rfl, shape, rfl⟩ := entry?_eq_some made
    refine ⟨shape, Table.get?_eq_some.2 among, ?_⟩
    change (m.entryOf entry.operation shape).toOption.join = some entry at made
    cases found : m.entryOf entry.operation shape with
    | error e => simp [found, Except.toOption] at made
    | ok here =>
      rw [found] at made
      exact congrArg Except.ok made
  · rintro ⟨shape, held, made⟩
    refine ⟨_, Table.get?_eq_some.1 held, ?_⟩
    change (m.entryOf entry.operation shape).toOption.join = some entry
    rw [made]
    rfl

theorem not_malformedEntry {entries : List PaginatedEntry} (h : m.paginatedOperations = .ok entries) :
    ¬ m.MalformedEntry id := fun bad => by
  cases h.symm.trans (paginatedOperations_eq_error.2 ⟨rfl, id, bad⟩)

theorem eq_of_operation_eq {entries : List PaginatedEntry} (h : m.paginatedOperations = .ok entries)
    {entry entry' : PaginatedEntry} (listed : entry ∈ entries) (listed' : entry' ∈ entries)
    (same : entry.operation = entry'.operation) : entry = entry' := by
  obtain ⟨shape, held, made⟩ := (mem_paginatedOperations h).1 listed
  obtain ⟨shape', held', made'⟩ := (mem_paginatedOperations h).1 listed'
  rw [same] at held made
  cases held.symm.trans held'
  cases made.symm.trans made'
  rfl

theorem find?_eq_some {entries : List PaginatedEntry} (h : m.paginatedOperations = .ok entries)
    {entry : PaginatedEntry} : (entries.find? fun e => e.operation == id) = some entry ↔
      entry ∈ entries ∧ entry.operation = id := by
  constructor
  · intro first
    exact ⟨List.mem_of_find?_eq_some first, by simpa using List.find?_some first⟩
  · rintro ⟨among, named⟩
    cases first : entries.find? fun e => e.operation == id with
    | none =>
      have other := List.find?_eq_none.1 first entry among
      simp [named] at other
    | some entry' =>
      have named' : entry'.operation = id := by simpa using List.find?_some first
      have among' : entry' ∈ entries := List.mem_of_find?_eq_some first
      rw [eq_of_operation_eq h among' among (named'.trans named.symm)]

theorem describes_of_mem {entries : List PaginatedEntry} (h : m.paginatedOperations = .ok entries)
    {entry : PaginatedEntry} (listed : entry ∈ entries) : m.Describes entry := by
  obtain ⟨shape, held, made⟩ := (mem_paginatedOperations h).1 listed
  obtain ⟨_, is⟩ | ⟨_, entry', is, _, describes⟩ :=
    entryOf_of_not_malformed held (not_malformedEntry h)
  · cases made.symm.trans is
  · cases made.symm.trans is
    exact describes

theorem exists_mem_iff_paged {entries : List PaginatedEntry}
    (h : m.paginatedOperations = .ok entries) :
    (∃ entry ∈ entries, entry.operation = id) ↔ m.Paged id := by
  constructor
  · rintro ⟨entry, listed, rfl⟩
    obtain ⟨shape, held, made⟩ := (mem_paginatedOperations h).1 listed
    obtain ⟨_, is⟩ | ⟨carries, _⟩ := entryOf_of_not_malformed held (not_malformedEntry h)
    · cases made.symm.trans is
    · exact ⟨shape, held, carries⟩
  · rintro ⟨shape, held, carries⟩
    obtain ⟨unlisted, _⟩ | ⟨_, entry, made, rfl, _⟩ :=
      entryOf_of_not_malformed held (not_malformedEntry h)
    · exact absurd carries unlisted
    · exact ⟨entry, (mem_paginatedOperations h).2 ⟨shape, held, made⟩, rfl⟩

theorem paginatedTrait_eq_ok {name : String} (found : m.findOperation name = .ok id)
    {trait : PaginatedTrait} :
    m.paginatedTrait name = .ok trait ↔ ∃ entries entry, m.paginatedOperations = .ok entries ∧
      entry ∈ entries ∧ entry.operation = id ∧ entry.paginated = trait := by
  rw [paginatedTrait, found]
  constructor
  · intro h
    obtain ⟨_, ⟨⟩, h⟩ := bind_eq_ok.1 h
    obtain ⟨entries, listed, h⟩ := bind_eq_ok.1 h
    split at h
    · next entry first =>
      obtain rfl := pure_eq_ok.1 h
      obtain ⟨among, named⟩ := (find?_eq_some listed).1 first
      exact ⟨entries, entry, listed, among, named, rfl⟩
    · cases h
  · rintro ⟨entries, entry, listed, among, named, rfl⟩
    have first := (find?_eq_some listed).2 ⟨among, named⟩
    simp only [bind, Except.bind, listed, first]
    rfl

/-! ### Other models with the same bindings -/

theorem SameBindings.entryOf_eq (h : m.SameBindings m') (id : String) (shape : OperationShape) :
    m.entryOf id shape = m'.entryOf id shape := by
  simp only [entryOf, h.ownerOf_eq]

theorem malformedEntry_iff : m.MalformedEntry id ↔
    ∃ shape, m.shapes.get? id = some (.operation shape) ∧
      m.entryOf id shape = .error traitError := by
  constructor
  · intro bad
    have ⟨shape, held, _⟩ := bad
    exact ⟨shape, held, entryOf_of_malformed held bad⟩
  · rintro ⟨shape, held, failed⟩
    exact ((entryAt_eq_error held).1 failed).2

theorem SameBindings.malformedEntry (h : m.SameBindings m')
    (same : m.shapes.get? id = m'.shapes.get? id) : m.MalformedEntry id ↔ m'.MalformedEntry id := by
  simp only [malformedEntry_iff, same, h.entryOf_eq]

theorem paginatedOperations_of_perm (h : m.shapes.entries.Perm m'.shapes.entries) :
    m.paginatedOperations = m'.paginatedOperations := by
  have same : ∀ id, m.shapes.get? id = m'.shapes.get? id := Table.get?_of_perm h
  have bindings : m.SameBindings m' :=
    ⟨fun id s => by rw [same], fun id r => by rw [same]⟩
  have errors : ∀ e, m.paginatedOperations = .error e ↔ m'.paginatedOperations = .error e := by
    intro e
    simp only [paginatedOperations_eq_error, bindings.malformedEntry (same _)]
  cases found : m.paginatedOperations with
  | error e => exact ((errors e).1 found).symm
  | ok entries =>
    cases found' : m'.paginatedOperations with
    | error e => cases found.symm.trans ((errors e).2 found')
    | ok entries' =>
      refine congrArg Except.ok (Ordered.eq_of_pairwise (pairwise_paginatedOperations found)
        (pairwise_paginatedOperations found') ?_)
      intro entry
      simp only [mem_paginatedOperations found, mem_paginatedOperations found', same,
        bindings.entryOf_eq]

/-- The listing fails with one error, and just when the trait of an operation, or that of the owner of
an operation that carries one, is malformed. Else it has one entry for every operation that carries
the trait, in order of their IDs, as the model describes it. The order of iteration makes no
difference. -/
theorem paginatedOperations_lists (m : Model) :
    (∀ e, m.paginatedOperations = .error e ↔ e = traitError ∧ ∃ id, m.MalformedEntry id) ∧
    ((∀ id, ¬ m.MalformedEntry id) → ∃ entries, m.paginatedOperations = .ok entries ∧
      entries.Pairwise (fun entry later => entry.operation < later.operation) ∧
      (∀ id, (∃ entry ∈ entries, entry.operation = id) ↔ m.Paged id) ∧
      ∀ entry ∈ entries, m.Describes entry) ∧
    ∀ m' : Model, m.shapes.entries.Perm m'.shapes.entries →
      m.paginatedOperations = m'.paginatedOperations := by
  refine ⟨fun _ => paginatedOperations_eq_error, fun good => ?_,
    fun _ => paginatedOperations_of_perm⟩
  cases found : m.paginatedOperations with
  | error e =>
    obtain ⟨_, id, bad⟩ := paginatedOperations_eq_error.1 found
    exact absurd bad (good id)
  | ok entries =>
    exact ⟨entries, rfl, pairwise_paginatedOperations found, fun _ => exists_mem_iff_paged found,
      fun _ => describes_of_mem found⟩

end Model

end Pagewise
