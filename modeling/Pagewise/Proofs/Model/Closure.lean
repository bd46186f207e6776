import Pagewise.Proofs.Model.Search

/-!
The operations of a service are the closure of its lists: in what order, or how often, names stand in
the lists makes no difference to them.
-/
namespace Pagewise

/-! ### Lists that are rearranged -/

def SameNames (as bs : List String) : Prop := ∀ a, a ∈ as ↔ a ∈ bs

theorem SameNames.refl (as : List String) : SameNames as as := fun _ => Iff.rfl

theorem SameNames.symm {as bs : List String} (h : SameNames as bs) : SameNames bs as :=
  fun a => (h a).symm

/-- The lists of a service or a resource may have their names in another order, and more or less
often. -/
inductive Shape.Rearranged : Shape → Shape → Prop where
  | same (s : Shape) : Rearranged s s
  | service (s : ServiceShape) {operations resources : List String}
    (same_operations : SameNames s.operations operations)
    (same_resources : SameNames s.resources resources) :
    Rearranged (.service s) (.service { s with operations := operations, resources := resources })
  | resource (r : ResourceShape) {operations collectionOperations resources : List String}
    (same_operations : SameNames r.operations operations)
    (same_collection : SameNames r.collectionOperations collectionOperations)
    (same_resources : SameNames r.resources resources) :
    Rearranged (.resource r) (.resource { r with
      operations := operations
      collectionOperations := collectionOperations
      resources := resources })

theorem Shape.Rearranged.symm {s s' : Shape} (h : s.Rearranged s') : s'.Rearranged s := by
  cases h with
  | same => exact .same s
  | service s ops res => exact .service _ ops.symm res.symm
  | resource r ops coll res => exact .resource _ ops.symm coll.symm res.symm

theorem Shape.Rearranged.of_resource {r : ResourceShape} {s : Shape}
    (h : Shape.Rearranged (.resource r) s) :
    ∃ r', s = .resource r' ∧ (∀ operation, r.Binds operation ↔ r'.Binds operation) ∧
      SameNames r.resources r'.resources := by
  cases h with
  | same => exact ⟨r, rfl, fun _ => Iff.rfl, .refl _⟩
  | resource _ ops coll res =>
    refine ⟨_, rfl, fun operation => ?_, res⟩
    rw [ResourceShape.Binds, ResourceShape.Binds, ops, coll]

namespace Model

variable {m m' : Model}

def Rearranged (m m' : Model) : Prop :=
  ∀ id, Option.Rel Shape.Rearranged (m.shapes.get? id) (m'.shapes.get? id)

theorem Rearranged.symm (h : m.Rearranged m') : m'.Rearranged m := by
  intro id
  have related := h id
  generalize m.shapes.get? id = held, m'.shapes.get? id = held' at related ⊢
  cases related with
  | none => exact .none
  | some same => exact .some same.symm

theorem Rearranged.get? (h : m.Rearranged m') {id : String} {s : Shape}
    (held : m.shapes.get? id = some s) : ∃ s', m'.shapes.get? id = some s' ∧ s.Rearranged s' := by
  have related := h id
  rw [held] at related
  generalize m'.shapes.get? id = held' at related ⊢
  cases related with
  | some same => exact ⟨_, rfl, same⟩

/-- The resources of a model are resources in the other one too, with the same operations and the
same resources below them. -/
def Mirrored (m m' : Model) : Prop :=
  ∀ id r, m.shapes.get? id = some (.resource r) →
    ∃ r', m'.shapes.get? id = some (.resource r') ∧
      (∀ operation, r.Binds operation ↔ r'.Binds operation) ∧ SameNames r.resources r'.resources

theorem Rearranged.mirrored (h : m.Rearranged m') : m.Mirrored m' := by
  intro id r held
  obtain ⟨_, held', same⟩ := h.get? held
  obtain ⟨r', rfl, binds, below⟩ := same.of_resource
  exact ⟨r', held', binds, below⟩

theorem Mirrored.reaches (h : m.Mirrored m') {roots roots' : List String}
    (same_roots : SameNames roots roots') {id : String} {r : ResourceShape}
    (reached : m.Reaches roots id r) :
    ∃ r', m'.Reaches roots' id r' ∧ (∀ operation, r.Binds operation ↔ r'.Binds operation) ∧
      SameNames r.resources r'.resources := by
  induction reached with
  | root listed held =>
    obtain ⟨r', held', same⟩ := h _ _ held
    exact ⟨r', .root ((same_roots _).1 listed) held', same⟩
  | child _ listed held ih =>
    obtain ⟨_, above, _, below⟩ := ih
    obtain ⟨r', held', same⟩ := h _ _ held
    exact ⟨r', .child above ((below _).1 listed) held', same⟩

theorem Mirrored.mem_operationsOf (h : m.Mirrored m') {s s' : ServiceShape}
    (same_operations : SameNames s.operations s'.operations)
    (same_resources : SameNames s.resources s'.resources) {operation : String}
    (found : operation ∈ m.operationsOf s) : operation ∈ m'.operationsOf s' := by
  rw [Model.mem_operationsOf] at found ⊢
  obtain own | ⟨id, r, reached, bound⟩ := found
  · exact .inl ((same_operations operation).1 own)
  · obtain ⟨r', reached', binds, _⟩ := h.reaches same_resources reached
    exact .inr ⟨id, r', reached', (binds operation).1 bound⟩

theorem operationsOf_eq (there : m.Mirrored m') (back : m'.Mirrored m) {s s' : ServiceShape}
    (same_operations : SameNames s.operations s'.operations)
    (same_resources : SameNames s.resources s'.resources) :
    m.operationsOf s = m'.operationsOf s' := by
  apply Ordered.eq_of_pairwise (Ordered.pairwise_distinct _) (Ordered.pairwise_distinct _)
  intro operation
  exact ⟨there.mem_operationsOf same_operations same_resources,
    back.mem_operationsOf same_operations.symm same_resources.symm⟩

/-! ### Services -/

theorem serviceOperations_of_service {id : String} {s : ServiceShape}
    (held : m.shapes.get? id = some (.service s)) :
    m.serviceOperations id = .ok (m.operationsOf s) := by
  rw [serviceOperations, shape, held]
  rfl

theorem serviceOperations_of_absent {id : String} (absent : m.shapes.get? id = none) :
    m.serviceOperations id = .error (.unknownShape id) := by
  rw [serviceOperations, shape, absent]
  rfl

theorem serviceOperations_of_other {id : String} {s : Shape} (held : m.shapes.get? id = some s)
    (other : s.asService? = none) :
    m.serviceOperations id = .error (.config ("Shape '" ++ id ++ "' is not a service")) := by
  rw [serviceOperations, shape, held]
  cases s with
  | service => cases other
  | _ => rfl

theorem Rearranged.serviceOperations_eq (h : m.Rearranged m') (id : String) :
    m.serviceOperations id = m'.serviceOperations id := by
  have related := h id
  generalize here : m.shapes.get? id = held, there : m'.shapes.get? id = held' at related
  cases related with
  | none => rw [serviceOperations_of_absent here, serviceOperations_of_absent there]
  | @some s _ same =>
    cases same with
    | same =>
      cases s with
      | service =>
        rw [serviceOperations_of_service here, serviceOperations_of_service there,
          operationsOf_eq h.mirrored h.symm.mirrored (.refl _) (.refl _)]
      | _ => rw [serviceOperations_of_other here rfl, serviceOperations_of_other there rfl]
    | service _ ops res =>
      rw [serviceOperations_of_service here, serviceOperations_of_service there]
      exact congrArg Except.ok (operationsOf_eq h.mirrored h.symm.mirrored ops res)
    | resource =>
      rw [serviceOperations_of_other here rfl, serviceOperations_of_other there rfl]

/-- A service that a model has gives its operations, each once and in order: its own and those of the
resources that chains of resources lead to. The search ends before it has taken more names than the
lists of resources hold. Any other name is an error, and in what order or how often names are listed
makes no difference. -/
theorem serviceOperations_closure (m : Model) (id : String) :
    (∀ s, m.shapes.get? id = some (.service s) →
      (∃ turns ≤ m.references s,
        let ended := (Search.turn m)^[turns] (.start s)
        ended.pending = [] ∧ m.serviceOperations id = .ok (Ordered.distinct ended.found)) ∧
      ∃ operations, m.serviceOperations id = .ok operations ∧ operations.Pairwise (· < ·) ∧
        ∀ operation, operation ∈ operations ↔ operation ∈ s.operations ∨
          ∃ id r, m.Reaches s.resources id r ∧ r.Binds operation) ∧
    (m.shapes.get? id = none → m.serviceOperations id = .error (.unknownShape id)) ∧
    (∀ s, m.shapes.get? id = some s → s.asService? = none →
      m.serviceOperations id = .error (.config ("Shape '" ++ id ++ "' is not a service"))) ∧
    ∀ m', m.Rearranged m' → m.serviceOperations id = m'.serviceOperations id := by
  refine ⟨fun s held => ⟨?_, ?_⟩, serviceOperations_of_absent, fun s => serviceOperations_of_other,
    fun m' same => same.serviceOperations_eq id⟩
  · obtain ⟨turns, few, ended, found⟩ := Search.exists_ended m s
    exact ⟨turns, few, ended, by rw [serviceOperations_of_service held, operationsOf, found]⟩
  · exact ⟨_, serviceOperations_of_service held, Ordered.pairwise_distinct _,
      fun _ => mem_operationsOf⟩

/-- Resources that are listed twice, list one another, are not there, or are no resources. -/
def tangled : Model where
  version := "2.0"
  shapes := .ofList [
    ("Service", .service ⟨none, ["List"], ["First", "Gone", "First", "Service"], .nil⟩),
    ("First", .resource ⟨some "Make", none, none, none, none, none, [], [], ["Second", "First"], .nil⟩),
    ("Second", .resource ⟨none, none, none, none, none, none, ["Make", "Find"], [], ["First", "Other"],
      .nil⟩),
    ("Other", .unknown)]

example : tangled.serviceOperations "Service" = .ok ["Find", "List", "Make"] := by cbv

end Model

end Pagewise
