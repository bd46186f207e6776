import Pagewise.Model.Listing
import Pagewise.Proofs.Model.Closure

/-!
Owners. The owner of an operation is the least service that binds it, and depends on nothing but the
services and the resources of a model.
-/
namespace Pagewise.Model

variable {m m' : Model} {service operation : String}

def BoundTo (m : Model) (operation service : String) : Prop :=
  ∃ operations, m.serviceOperations service = .ok operations ∧ operation ∈ operations

/-- The least service that binds an operation. -/
structure Owns (m : Model) (service operation : String) : Prop where
  bound : m.BoundTo operation service
  least : ∀ other, m.BoundTo operation other → service ≤ other

def OwnedBy (m : Model) (operation : String) : Option String → Prop
  | some service => m.Owns service operation
  | none => ∀ service, ¬ m.BoundTo operation service

theorem boundTo_iff : m.BoundTo operation service ↔
    ∃ s, m.shapes.get? service = some (.service s) ∧ operation ∈ m.operationsOf s := by
  constructor
  · rintro ⟨operations, found, listed⟩
    cases held : m.shapes.get? service with
    | none => simp [serviceOperations_of_absent held] at found
    | some shape =>
      cases shape with
      | service s =>
        have same : m.operationsOf s = operations := by
          simpa [serviceOperations_of_service held] using found
        exact ⟨s, rfl, same ▸ listed⟩
      | _ => simp [serviceOperations_of_other held rfl] at found
  · rintro ⟨s, held, listed⟩
    exact ⟨_, serviceOperations_of_service held, listed⟩

theorem mem_services {s : ServiceShape} :
    (service, s) ∈ m.services ↔ m.shapes.get? service = some (.service s) := by
  rw [services, Ordered.mem_sortOn, Table.get?_eq_some, List.mem_filterMap]
  constructor
  · rintro ⟨⟨id, shape⟩, held, is⟩
    cases shape with
    | service s' =>
      cases is
      exact held
    | _ => cases is
  · exact fun held => ⟨_, held, rfl⟩

theorem pairwise_services_source (m : Model) :
    (m.shapes.entries.filterMap fun e => e.2.asService?.map (e.1, ·)).Pairwise
      fun s s' => s.1 ≠ s'.1 := by
  have keys : m.shapes.entries.Pairwise fun e e' => e.1 ≠ e'.1 :=
    List.pairwise_map.1 m.shapes.nodup
  refine keys.filterMap _ ?_
  intro e e' different s is s' is'
  obtain ⟨_, _, rfl⟩ := Option.map_eq_some_iff.1 is
  obtain ⟨_, _, rfl⟩ := Option.map_eq_some_iff.1 is'
  exact different

theorem pairwise_services (m : Model) : m.services.Pairwise fun s s' => s.1 < s'.1 :=
  Ordered.pairwise_sortOn m.pairwise_services_source

theorem ownerOf_eq_some {s : ServiceShape} : m.ownerOf operation = some (service, s) →
    m.shapes.get? service = some (.service s) ∧ m.Owns service operation := by
  intro found
  obtain ⟨binds, before, after, split, others⟩ := List.find?_eq_some_iff_append.1 found
  have held : m.shapes.get? service = some (.service s) := by
    rw [← mem_services, split]
    simp
  have sorted := m.pairwise_services
  rw [split] at sorted
  refine ⟨held, boundTo_iff.2 ⟨s, held, by simpa using binds⟩, ?_⟩
  intro other bound
  obtain ⟨s', held', listed⟩ := boundTo_iff.1 bound
  have among : (other, s') ∈ before ++ (service, s) :: after := by
    rw [← split, mem_services]
    exact held'
  rcases List.mem_append.1 among with earlier | here_or_later
  · -- Services before the one that is found do not bind the operation.
    have unbound := others _ earlier
    simp [listed] at unbound
  · rcases List.mem_cons.1 here_or_later with here | later
    · cases here
      exact String.le_refl _
    · have less : service < other :=
        (List.pairwise_cons.1 (List.pairwise_append.1 sorted).2.1).1 _ later
      exact String.not_lt.1 (String.lt_asymm less)

theorem ownerOf_eq_none (h : m.ownerOf operation = none) : m.OwnedBy operation none := by
  intro service bound
  obtain ⟨s, held, listed⟩ := boundTo_iff.1 bound
  have unbound := List.find?_eq_none.1 h _ (mem_services.2 held)
  simp [listed] at unbound

theorem ownedBy_ownerOf (m : Model) (operation : String) :
    m.OwnedBy operation ((m.ownerOf operation).map Prod.fst) := by
  cases found : m.ownerOf operation with
  | none => exact ownerOf_eq_none found
  | some owner => exact (ownerOf_eq_some found).2

theorem Owns.unique {other : String} (h : m.Owns service operation) (h' : m.Owns other operation) :
    service = other :=
  String.le_antisymm (h.least _ h'.bound) (h'.least _ h.bound)

/-! ### Models with the same bindings -/

/-- Two models have the same services and the same resources. -/
structure SameBindings (m m' : Model) : Prop where
  services : ∀ id s, m.shapes.get? id = some (.service s) ↔ m'.shapes.get? id = some (.service s)
  resources : ∀ id r,
    m.shapes.get? id = some (.resource r) ↔ m'.shapes.get? id = some (.resource r)

namespace SameBindings

variable (h : m.SameBindings m')
include h

theorem symm : m'.SameBindings m :=
  ⟨fun id s => (h.services id s).symm, fun id r => (h.resources id r).symm⟩

theorem mirrored : m.Mirrored m' := fun id r held =>
  ⟨r, (h.resources id r).1 held, fun _ => Iff.rfl, .refl _⟩

theorem operationsOf_eq (s : ServiceShape) : m.operationsOf s = m'.operationsOf s :=
  Model.operationsOf_eq h.mirrored h.symm.mirrored (.refl _) (.refl _)

theorem services_eq : m.services = m'.services := by
  apply Ordered.eq_of_pairwise m.pairwise_services m'.pairwise_services
  rintro ⟨service, s⟩
  rw [mem_services, mem_services, h.services]

theorem ownerOf_eq (operation : String) : m.ownerOf operation = m'.ownerOf operation := by
  simp only [ownerOf, h.services_eq, h.operationsOf_eq]

end SameBindings

end Pagewise.Model
