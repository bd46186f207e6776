import Mathlib.Logic.Function.Iterate
import Pagewise.Model.Service
import Pagewise.Proofs.Ordered

/-!
The operations of a service are its own and those of all resources that chains of resources lead to
from it. The search for them is told turn by turn: each turn takes one pending name, and what the
search has still to do, the pending names and the children of the unvisited ones, gets less by it.
-/
namespace Pagewise

def ResourceShape.Binds (r : ResourceShape) (operation : String) : Prop :=
  r.create = some operation ∨ r.put = some operation ∨ r.read = some operation ∨
    r.update = some operation ∨ r.delete = some operation ∨ r.list = some operation ∨
    operation ∈ r.operations ∨ operation ∈ r.collectionOperations

theorem ResourceShape.mem_boundOperations {r : ResourceShape} {operation : String} :
    operation ∈ r.boundOperations ↔ r.Binds operation := by
  simp [boundOperations, Binds, or_assoc, eq_comm]

namespace Model

/-- The resources that chains of resource shapes lead to, from those with some names. -/
inductive Reaches (m : Model) (roots : List String) : String → ResourceShape → Prop where
  | root {id : String} {r : ResourceShape} (listed : id ∈ roots)
    (held : m.shapes.get? id = some (.resource r)) : Reaches m roots id r
  | child {above id : String} {r s : ResourceShape} (reached : Reaches m roots above r)
    (listed : id ∈ r.resources) (held : m.shapes.get? id = some (.resource s)) :
    Reaches m roots id s

theorem Reaches.held {m : Model} {roots : List String} {id : String} {r : ResourceShape}
    (h : m.Reaches roots id r) : m.shapes.get? id = some (.resource r) := by
  cases h <;> assumption

def childrenOf (m : Model) (id : String) : List String :=
  match m.shapes.get? id with
  | some (.resource r) => r.resources
  | _ => []

def references (m : Model) (s : ServiceShape) : Nat :=
  s.resources.length + (m.shapes.names.flatMap m.childrenOf).length

end Model

/-! ### Turns -/

/-- A search for the operations of a service. -/
structure Search where
  visited : List String
  pending : List String
  found : List String

namespace Search

variable {m : Model} {s : ServiceShape} {w : Search}

def start (s : ServiceShape) : Search := ⟨[], s.resources, s.operations⟩

def visit (w : Search) (id : String) (r : ResourceShape) (rest : List String) : Search :=
  ⟨id :: w.visited, r.resources ++ rest, w.found ++ r.boundOperations⟩

def turn (m : Model) (w : Search) : Search :=
  match w.pending with
  | [] => w
  | id :: rest =>
    if id ∈ w.visited then { w with pending := rest }
    else
      match m.shapes.get? id with
      | some (.resource r) => w.visit id r rest
      | _ => { w with pending := rest }

def result (m : Model) (w : Search) : List String := m.collect w.visited w.pending w.found

theorem turn_cases {id : String} {rest : List String} (next : w.pending = id :: rest) :
    (∃ r, id ∉ w.visited ∧ m.shapes.get? id = some (.resource r) ∧
      w.turn m = w.visit id r rest) ∨
    ((id ∈ w.visited ∨ ∀ r, m.shapes.get? id ≠ some (.resource r)) ∧
      w.turn m = { w with pending := rest }) := by
  rw [turn, next]
  by_cases seen : id ∈ w.visited
  · exact .inr ⟨.inl seen, if_pos seen⟩
  · simp only [if_neg seen]
    split
    · next r held => exact .inl ⟨r, seen, held, rfl⟩
    · next other => exact .inr ⟨.inr other, rfl⟩

theorem collect_resource {visited rest found : List String} {id : String} {r : ResourceShape}
    (new : id ∉ visited) (held : m.shapes.get? id = some (.resource r)) :
    m.collect visited (id :: rest) found =
      m.collect (id :: visited) (r.resources ++ rest) (found ++ r.boundOperations) := by
  rw [Model.collect, dif_neg new]
  split <;> simp_all

theorem collect_idle {visited rest found : List String} {id : String}
    (idle : id ∈ visited ∨ ∀ r, m.shapes.get? id ≠ some (.resource r)) :
    m.collect visited (id :: rest) found = m.collect visited rest found := by
  rw [Model.collect]
  split
  · rfl
  · split <;> simp_all

theorem result_turn : (w.turn m).result m = w.result m := by
  cases next : w.pending with
  | nil => rw [turn, next]
  | cons id rest =>
    obtain ⟨r, new, held, is⟩ | ⟨idle, is⟩ := turn_cases (m := m) next
    · rw [result, result, is, next, collect_resource new held]
      rfl
    · rw [result, result, is, next, collect_idle idle]

theorem result_turns (n : Nat) : ((turn m)^[n] w).result m = w.result m := by
  induction n generalizing w with
  | zero => rfl
  | succ n ih => rw [Function.iterate_succ_apply, ih, result_turn]

theorem result_of_ended (ended : w.pending = []) : w.result m = w.found := by
  rw [result, ended, Model.collect]

/-! ### The search ends -/

def work (m : Model) (w : Search) : Nat :=
  w.pending.length + ((m.unvisited w.visited).flatMap m.childrenOf).length

theorem length_children_visit {visited : List String} {id : String} {r : ResourceShape}
    (held : m.shapes.get? id = some (.resource r)) (new : id ∉ visited) :
    ((m.unvisited visited).flatMap m.childrenOf).length =
      r.resources.length + ((m.unvisited (id :: visited)).flatMap m.childrenOf).length := by
  have children : m.childrenOf id = r.resources := by rw [Model.childrenOf, held]
  have once : (m.unvisited visited).Nodup := m.shapes.nodup.filter _
  have rest : m.unvisited (id :: visited) = (m.unvisited visited).erase id := by
    rw [once.erase_eq_filter, Model.unvisited, Model.unvisited, List.filter_filter]
    apply List.filter_congr
    intro name _
    by_cases here : name = id <;> simp [here]
  have among : id ∈ m.unvisited visited :=
    List.mem_filter.2 ⟨Table.mem_names_of_get? held, by simpa using new⟩
  have apart : (m.unvisited visited).Perm (id :: m.unvisited (id :: visited)) := by
    rw [rest]
    exact List.perm_cons_erase among
  rw [(apart.flatMap_right m.childrenOf).length_eq, List.flatMap_cons, List.length_append, children]

theorem work_turn (going : w.pending ≠ []) : (w.turn m).work m < w.work m := by
  obtain ⟨id, rest, next⟩ := List.exists_cons_of_ne_nil going
  obtain ⟨r, new, held, is⟩ | ⟨_, is⟩ := turn_cases (m := m) next
  · have fewer := length_children_visit held new
    simp only [work, is, visit, next, List.length_append, List.length_cons]
    omega
  · simp [work, is, next]

theorem turn_of_ended (ended : w.pending = []) : w.turn m = w := by
  rw [turn, ended]

theorem ended_of_work_le {n : Nat} (h : w.work m ≤ n) : ((turn m)^[n] w).pending = [] := by
  induction n generalizing w with
  | zero =>
    have none_left : w.pending.length = 0 := by
      rw [work] at h
      omega
    exact List.eq_nil_of_length_eq_zero none_left
  | succ n ih =>
    rw [Function.iterate_succ_apply]
    by_cases going : w.pending = []
    · have stays : (turn m)^[n] w = w := Function.iterate_fixed (turn_of_ended going) n
      rw [turn_of_ended going, stays, going]
    · have less := work_turn (m := m) going
      exact ih (by omega)

theorem work_start : (start s).work m = m.references s := by
  have all : m.unvisited [] = m.shapes.names := by simp [Model.unvisited]
  rw [work, Model.references, start, all]

/-- From its start the search ends, with what is collected for the service. -/
theorem exists_ended (m : Model) (s : ServiceShape) : ∃ turns ≤ m.references s,
    ((turn m)^[turns] (start s)).pending = [] ∧
      m.collect [] s.resources s.operations = ((turn m)^[turns] (start s)).found := by
  have ended : ((turn m)^[m.references s] (start s)).pending = [] :=
    ended_of_work_le work_start.le
  refine ⟨m.references s, le_rfl, ended, ?_⟩
  rw [← result_of_ended ended, result_turns]
  rfl

/-! ### What it has found -/

def Knows (m : Model) (w : Search) (id : String) : Prop :=
  id ∈ w.visited ∨ id ∈ w.pending ∨ ∀ r, m.shapes.get? id ≠ some (.resource r)

/-- Where a search stands: all it names is reached from the service, what is listed by the service
and by visited resources is known to it, and it has found what these bind. -/
structure Explores (m : Model) (s : ServiceShape) (w : Search) : Prop where
  visited_reached : ∀ id ∈ w.visited, ∃ r, m.Reaches s.resources id r
  pending_listed : ∀ id ∈ w.pending,
    id ∈ s.resources ∨ ∃ above r, m.Reaches s.resources above r ∧ id ∈ r.resources
  roots_known : ∀ id ∈ s.resources, w.Knows m id
  children_known : ∀ above ∈ w.visited, ∀ r, m.shapes.get? above = some (.resource r) →
    ∀ id ∈ r.resources, w.Knows m id
  found_bound : ∀ operation, operation ∈ w.found ↔ operation ∈ s.operations ∨
    ∃ id ∈ w.visited, ∃ r, m.shapes.get? id = some (.resource r) ∧ r.Binds operation

theorem explores_start : (start s).Explores m s where
  visited_reached _ h := by cases h
  pending_listed _ h := .inl h
  roots_known _ h := .inr (.inl h)
  children_known _ h := by cases h
  found_bound operation := by simp [start]

theorem Explores.visit (h : w.Explores m s) {id : String} {rest : List String} {r : ResourceShape}
    (next : w.pending = id :: rest) (held : m.shapes.get? id = some (.resource r)) :
    (w.visit id r rest).Explores m s := by
  have reached : m.Reaches s.resources id r := by
    obtain listed | ⟨_, _, above, listed⟩ := h.pending_listed id (next ▸ List.mem_cons_self)
    · exact .root listed held
    · exact .child above listed held
  have known : ∀ name, w.Knows m name → (w.visit id r rest).Knows m name := by
    rintro name (seen | waits | other)
    · exact .inl (List.mem_cons_of_mem _ seen)
    · rw [next] at waits
      obtain rfl | later := List.mem_cons.1 waits
      · exact .inl List.mem_cons_self
      · exact .inr (.inl (List.mem_append_right _ later))
    · exact .inr (.inr other)
  constructor
  case visited_reached =>
    intro name seen
    obtain rfl | seen := List.mem_cons.1 seen
    · exact ⟨r, reached⟩
    · exact h.visited_reached name seen
  case pending_listed =>
    intro name waits
    obtain below | waits := List.mem_append.1 waits
    · exact .inr ⟨id, r, reached, below⟩
    · exact h.pending_listed name (next ▸ List.mem_cons_of_mem _ waits)
  case roots_known => exact fun name listed => known name (h.roots_known name listed)
  case children_known =>
    intro above seen r' held' name listed
    obtain rfl | seen := List.mem_cons.1 seen
    · obtain rfl : r = r' := by simpa [held] using held'
      exact .inr (.inl (List.mem_append_left _ listed))
    · exact known name (h.children_known above seen r' held' name listed)
  case found_bound =>
    intro operation
    rw [Search.visit, List.mem_append, h.found_bound, ResourceShape.mem_boundOperations]
    have here : (∃ r', m.shapes.get? id = some (.resource r') ∧ r'.Binds operation) ↔
        r.Binds operation := by simp [held]
    simp only [List.mem_cons, or_and_right, exists_or, exists_eq_left, here]
    rw [or_assoc, or_comm (b := r.Binds operation)]

theorem Explores.skip (h : w.Explores m s) {id : String} {rest : List String}
    (next : w.pending = id :: rest)
    (idle : id ∈ w.visited ∨ ∀ r, m.shapes.get? id ≠ some (.resource r)) :
    Explores m s { w with pending := rest } := by
  have known : ∀ name, w.Knows m name → Knows m { w with pending := rest } name := by
    rintro name (seen | waits | other)
    · exact .inl seen
    · rw [next] at waits
      obtain rfl | later := List.mem_cons.1 waits
      · exact idle.imp_right .inr
      · exact .inr (.inl later)
    · exact .inr (.inr other)
  exact
    { visited_reached := h.visited_reached
      pending_listed := fun name waits =>
        h.pending_listed name (next ▸ List.mem_cons_of_mem _ waits)
      roots_known := fun name listed => known name (h.roots_known name listed)
      children_known := fun above seen r held name listed =>
        known name (h.children_known above seen r held name listed)
      found_bound := h.found_bound }

theorem Explores.turn (h : w.Explores m s) : (w.turn m).Explores m s := by
  cases next : w.pending with
  | nil =>
    rw [turn_of_ended next]
    exact h
  | cons id rest =>
    obtain ⟨r, _, held, is⟩ | ⟨idle, is⟩ := turn_cases (m := m) next
    · rw [is]
      exact h.visit next held
    · rw [is]
      exact h.skip next idle

theorem Explores.turns (h : w.Explores m s) (n : Nat) :
    ((Search.turn m)^[n] w).Explores m s := by
  induction n generalizing w with
  | zero => exact h
  | succ n ih =>
    rw [Function.iterate_succ_apply]
    exact ih h.turn

theorem Explores.visited_of_reaches (h : w.Explores m s) (ended : w.pending = []) {id : String}
    {r : ResourceShape} (reached : m.Reaches s.resources id r) : id ∈ w.visited := by
  have visited : ∀ {id r}, w.Knows m id → m.shapes.get? id = some (.resource r) →
      id ∈ w.visited := by
    rintro id r (seen | waits | other) held
    · exact seen
    · rw [ended] at waits
      cases waits
    · exact absurd held (other r)
  induction reached with
  | root listed held => exact visited (h.roots_known _ listed) held
  | child above listed held ih =>
    exact visited (h.children_known _ ih _ above.held _ listed) held

theorem Explores.found_of_ended (h : w.Explores m s) (ended : w.pending = []) (operation : String) :
    operation ∈ w.found ↔ operation ∈ s.operations ∨
      ∃ id r, m.Reaches s.resources id r ∧ r.Binds operation := by
  rw [h.found_bound]
  apply or_congr_right
  constructor
  · rintro ⟨id, seen, r, held, bound⟩
    obtain ⟨r', reached⟩ := h.visited_reached id seen
    obtain rfl : r = r' := by simpa [held] using reached.held
    exact ⟨id, r, reached, bound⟩
  · rintro ⟨id, r, reached, bound⟩
    exact ⟨id, h.visited_of_reaches ended reached, r, reached.held, bound⟩

end Search

namespace Model

variable {m : Model}

theorem mem_operationsOf {s : ServiceShape} {operation : String} :
    operation ∈ m.operationsOf s ↔ operation ∈ s.operations ∨
      ∃ id r, m.Reaches s.resources id r ∧ r.Binds operation := by
  obtain ⟨turns, _, ended, found⟩ := Search.exists_ended m s
  rw [operationsOf, Ordered.mem_distinct, found]
  exact (Search.explores_start.turns turns).found_of_ended ended operation

end Model

end Pagewise
