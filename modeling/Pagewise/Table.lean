/-!
Tables: values by name, each name once, in some order of iteration.
-/
namespace Pagewise

structure Table (α : Type) where
  entries : List (String × α)
  nodup : (entries.map Prod.fst).Nodup

namespace Table

variable {α : Type}

def empty : Table α := ⟨[], by simp⟩

instance : Inhabited (Table α) := ⟨empty⟩

def names (t : Table α) : List String := t.entries.map Prod.fst

def size (t : Table α) : Nat := t.entries.length

def get? (t : Table α) (name : String) : Option α := t.entries.lookup name

def replace (name : String) (value : α) (entries : List (String × α)) : List (String × α) :=
  entries.map fun e => if e.1 = name then (e.1, value) else e

theorem names_replace (name : String) (value : α) (entries : List (String × α)) :
    (replace name value entries).map Prod.fst = entries.map Prod.fst := by
  simp only [replace, List.map_map, List.map_inj_left, Function.comp_apply]
  intro e _
  split <;> rfl

/-- Set the value of a name; a new name comes last. -/
def insert (t : Table α) (name : String) (value : α) : Table α :=
  if h : name ∈ t.entries.map Prod.fst then
    ⟨replace name value t.entries, by rw [names_replace]; exact t.nodup⟩
  else ⟨t.entries ++ [(name, value)], by
    rw [List.map_append, List.nodup_append]
    exact ⟨t.nodup, by simp, by
      intro a ha b hb
      simp only [List.map_cons, List.map_nil, List.mem_singleton] at hb
      rintro rfl
      exact h (hb ▸ ha)⟩⟩

def ofList (entries : List (String × α)) : Table α :=
  entries.foldl (fun t e => t.insert e.1 e.2) empty

theorem mem_of_lookup {name : String} {value : α} {entries : List (String × α)}
    (h : entries.lookup name = some value) : (name, value) ∈ entries := by
  induction entries with
  | nil => simp at h
  | cons e entries ih =>
    rw [List.lookup_cons] at h
    split at h
    · next heq => simp_all [Prod.ext_iff]
    · exact List.mem_cons_of_mem _ (ih h)

theorem mem_names_of_get? {t : Table α} {name : String} {value : α} (h : t.get? name = some value) :
    name ∈ t.names := List.mem_map.2 ⟨_, mem_of_lookup h, rfl⟩

/-! ### Lookups -/

theorem lookup_cons (name : String) (value : α) (entries : List (String × α)) (other : String) :
    ((name, value) :: entries).lookup other =
      if other = name then some value else entries.lookup other := by
  rw [List.lookup_cons]
  by_cases h : other = name
  · simp [h]
  · rw [if_neg h, beq_false_of_ne h]

theorem lookup_replace (name : String) (value : α) (entries : List (String × α)) (other : String) :
    (replace name value entries).lookup other =
      if other = name then (entries.lookup name).map fun _ => value else entries.lookup other := by
  induction entries with
  | nil => simp [replace]
  | cons e entries ih =>
    obtain ⟨key, old⟩ := e
    rw [replace] at ih ⊢
    by_cases hk : key = name
    · simp only [List.map_cons, hk, if_true, lookup_cons, ih]
      split <;> rfl
    · simp only [List.map_cons, hk, if_false, lookup_cons, ih, Ne.symm hk]
      by_cases ho : other = name <;> simp [ho, Ne.symm hk]

theorem exists_lookup_of_mem {name : String} {entries : List (String × α)}
    (h : name ∈ entries.map Prod.fst) : ∃ value, entries.lookup name = some value := by
  induction entries with
  | nil => simp at h
  | cons e entries ih =>
    obtain ⟨key, value⟩ := e
    rw [lookup_cons]
    split
    · exact ⟨value, rfl⟩
    · next hne => exact ih (by simpa [hne] using h)

theorem lookup_of_mem {name : String} {value : α} {entries : List (String × α)}
    (once : (entries.map Prod.fst).Nodup) (h : (name, value) ∈ entries) :
    entries.lookup name = some value := by
  induction entries with
  | nil => simp at h
  | cons e entries ih =>
    obtain ⟨key, old⟩ := e
    simp only [List.map_cons, List.nodup_cons] at once
    rw [lookup_cons]
    rcases List.mem_cons.1 h with same | later
    · cases same
      rw [if_pos rfl]
    · have other : name ≠ key := by
        rintro rfl
        exact once.1 (List.mem_map.2 ⟨_, later, rfl⟩)
      rw [if_neg other, ih once.2 later]

theorem get?_eq_some {t : Table α} {name : String} {value : α} :
    t.get? name = some value ↔ (name, value) ∈ t.entries :=
  ⟨mem_of_lookup, lookup_of_mem t.nodup⟩

theorem get?_of_perm {t u : Table α} (h : t.entries.Perm u.entries) (name : String) :
    t.get? name = u.get? name := by
  apply Option.ext
  intro value
  rw [get?_eq_some, get?_eq_some, h.mem_iff]

@[simp] theorem get?_empty (name : String) : (empty : Table α).get? name = none := rfl

theorem get?_insert (t : Table α) (name : String) (value : α) (other : String) :
    (t.insert name value).get? other = if other = name then some value else t.get? other := by
  unfold insert get?
  split
  · next h =>
    obtain ⟨old, hold⟩ := exists_lookup_of_mem h
    rw [lookup_replace, hold, Option.map_some]
  · next h =>
    rw [List.lookup_append, lookup_cons]
    by_cases ho : other = name
    · have absent : t.entries.lookup name = none := by
        cases hl : t.entries.lookup name with
        | none => rfl
        | some old => exact absurd (mem_names_of_get? hl) h
      simp [ho, absent]
    · simp [ho]

end Table

end Pagewise
