import Pagewise.Proofs.Model.Lookup
import Pagewise.Proofs.Model.Resolution
import Pagewise.Proofs.Ordered

/-!
The paged operations of a model as they are listed: by ID in strictly increasing order, each under the
ID of an operation shape.
-/
namespace Pagewise

theorem filterMap_of_mapM {ε α β : Type} {f : α → Except ε (Option β)} {l : List α}
    {found : List (Option β)} (h : l.mapM f = .ok found) :
    found.filterMap id = l.filterMap fun a => (f a).toOption.join := by
  induction l generalizing found with
  | nil =>
    obtain rfl := pure_eq_ok.1 h
    rfl
  | cons a l ih =>
    rw [List.mapM_cons] at h
    obtain ⟨b, here, h⟩ := bind_eq_ok.1 h
    obtain ⟨rest, there, h⟩ := bind_eq_ok.1 h
    obtain rfl := pure_eq_ok.1 h
    rw [List.filterMap_cons, List.filterMap_cons, ih there, here]
    rfl

section

variable {ε α β : Type} {f : α → Except ε β} {l : List α}

theorem exists_of_mapM_eq_error {e : ε} (h : l.mapM f = .error e) : ∃ a ∈ l, f a = .error e := by
  induction l with
  | nil => cases h
  | cons a l ih =>
    rw [List.mapM_cons] at h
    cases here : f a with
    | error e' =>
      obtain rfl : e' = e := by simpa [here, bind, Except.bind] using h
      exact ⟨a, List.mem_cons_self, here⟩
    | ok b =>
      cases there : l.mapM f with
      | error e' =>
        obtain rfl : e' = e := by simpa [here, there, bind, Except.bind] using h
        obtain ⟨a', among, failed⟩ := ih there
        exact ⟨a', List.mem_cons_of_mem _ among, failed⟩
      | ok bs => simp [here, there, bind, Except.bind, pure, Except.pure] at h

theorem exists_of_mapM_eq_ok {bs : List β} (h : l.mapM f = .ok bs) {a : α} (among : a ∈ l) :
    ∃ b, f a = .ok b := by
  induction l generalizing bs with
  | nil => cases among
  | cons a' l ih =>
    rw [List.mapM_cons] at h
    obtain ⟨b, here, h⟩ := bind_eq_ok.1 h
    obtain ⟨_, there, _⟩ := bind_eq_ok.1 h
    rcases List.mem_cons.1 among with rfl | later
    · exact ⟨b, here⟩
    · exact ih there later

end

namespace Model

variable {m : Model} {id : String}

def entry? (m : Model) (e : String × Shape) : Option PaginatedEntry :=
  (match e.2.asOperation? with
    | some operation => m.entryOf e.1 operation
    | none => .ok none).toOption.join

theorem operation_of_entryOf {operation : OperationShape} {entry : PaginatedEntry}
    (h : m.entryOf id operation = .ok (some entry)) : entry.operation = id := by
  obtain ⟨own, _, h⟩ := bind_eq_ok.1 h
  cases own with
  | none => cases pure_eq_ok.1 h
  | some own =>
    simp only at h
    split at h
    · cases pure_eq_ok.1 h
      rfl
    · obtain ⟨defaults, _, h⟩ := bind_eq_ok.1 h
      cases pure_eq_ok.1 h
      rfl

theorem entry?_eq_some {e : String × Shape} {entry : PaginatedEntry} (h : m.entry? e = some entry) :
    entry.operation = e.1 ∧ ∃ shape, e.2 = .operation shape := by
  obtain ⟨id, s⟩ := e
  cases s with
  | operation shape =>
    refine ⟨?_, shape, rfl⟩
    change (m.entryOf id shape).toOption.join = some entry at h
    cases made : m.entryOf id shape with
    | error e => simp [made, Except.toOption] at h
    | ok found =>
      rw [made] at h
      obtain rfl : found = some entry := h
      exact operation_of_entryOf made
  | _ => cases h

theorem paginatedOperations_eq_ok {entries : List PaginatedEntry}
    (h : m.paginatedOperations = .ok entries) :
    entries = Ordered.sortOn PaginatedEntry.operation (m.shapes.entries.filterMap m.entry?) := by
  obtain ⟨found, all, h⟩ := bind_eq_ok.1 h
  obtain rfl := pure_eq_ok.1 h
  rw [filterMap_of_mapM all]
  rfl

/-- The operations of a list stand in order of their IDs, each once. -/
theorem pairwise_paginatedOperations {entries : List PaginatedEntry}
    (h : m.paginatedOperations = .ok entries) :
    entries.Pairwise fun e e' => e.operation < e'.operation := by
  have keys : m.shapes.entries.Pairwise fun e e' => e.1 ≠ e'.1 :=
    List.pairwise_map.1 m.shapes.nodup
  rw [paginatedOperations_eq_ok h]
  apply Ordered.pairwise_sortOn
  refine keys.filterMap m.entry? ?_
  intro e e' different entry made entry' made'
  rw [(entry?_eq_some made).1, (entry?_eq_some made').1]
  exact different

theorem operation_of_mem {entries : List PaginatedEntry} (h : m.paginatedOperations = .ok entries)
    {entry : PaginatedEntry} (listed : entry ∈ entries) :
    ∃ shape, (entry.operation, .operation shape) ∈ m.shapes.entries := by
  rw [paginatedOperations_eq_ok h, Ordered.mem_sortOn] at listed
  obtain ⟨⟨id, s⟩, held, made⟩ := List.mem_filterMap.1 listed
  obtain ⟨is, shape, rfl⟩ := entry?_eq_some made
  exact ⟨shape, is ▸ held⟩

end Model

end Pagewise
