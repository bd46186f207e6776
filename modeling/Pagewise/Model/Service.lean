import Pagewise.Model.Basic

/-!
Operations of a service: its own, and those bound to the resources that can be reached from it.
-/
namespace Pagewise.Model

def unvisited (m : Model) (visited : List String) : List String :=
  m.shapes.names.filter fun n => !visited.contains n

theorem length_filter_lt {α : Type} {p q : α → Bool} {l : List α} {a : α}
    (hpq : ∀ b, p b = true → q b = true) (ha : a ∈ l) (hq : q a = true) (hp : p a = false) :
    (l.filter p).length < (l.filter q).length := by
  induction l with
  | nil => simp at ha
  | cons b l ih =>
    have hle : (l.filter p).length ≤ (l.filter q).length := by
      clear ih ha
      induction l with
      | nil => simp
      | cons c l ih => grind
    rcases List.mem_cons.1 ha with rfl | ha
    · simp only [List.filter_cons, hp, hq, if_true, Bool.false_eq_true, if_false, List.length_cons]
      omega
    · have := ih ha
      grind

theorem length_unvisited_lt (m : Model) {visited : List String} {id : String} {s : Shape}
    (hs : m.shapes.get? id = some s) (hv : id ∉ visited) :
    (m.unvisited (id :: visited)).length < (m.unvisited visited).length :=
  length_filter_lt (a := id) (by simp) (Table.mem_names_of_get? hs) (by simpa using hv)
    (by simp)

/-- Follow pending resources, each at most once, and collect what is bound to them. -/
def collect (m : Model) (visited : List String) : List String → List String → List String
  | [], found => found
  | id :: pending, found =>
    if hv : id ∈ visited then collect m visited pending found
    else
      match hs : m.shapes.get? id with
      | some (.resource r) =>
        have := length_unvisited_lt m hs hv
        collect m (id :: visited) (r.resources ++ pending) (found ++ r.boundOperations)
      | _ => collect m visited pending found
termination_by pending => ((m.unvisited visited).length, pending.length)

def operationsOf (m : Model) (service : ServiceShape) : List String :=
  Ordered.distinct (m.collect [] service.resources service.operations)

def serviceOperations (m : Model) (id : String) : Except Error (List String) := do
  match ← m.shape id with
  | .service s => return m.operationsOf s
  | _ => .error (.config ("Shape '" ++ id ++ "' is not a service"))

end Pagewise.Model
