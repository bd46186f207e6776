import Pagewise.Document.Basic

/-!
Members are determined by their lookups. So two ways of updating an object give the same object when
they give the same lookups, whatever order the members were written in.
-/
namespace Pagewise.Members

variable {bound : Option String}

theorem get?_of_not_above {low name : String} (ms : Members (some low)) (h : ¬ low < name) :
    ms.get? name = none :=
  get?_eq_none_of_not_lt h ms rfl

theorem get?_cons_self (key : String) (above : ∀ b ∈ bound, b < key) (value : Document)
    (rest : Members (some key)) : (cons key above value rest).get? key = some value := by
  rw [get?, if_pos rfl]

theorem get?_cons_of_lt {key name : String} (h : name < key) (above : ∀ b ∈ bound, b < key)
    (value : Document) (rest : Members (some key)) :
    (cons key above value rest).get? name = none := by
  have different : key ≠ name := fun same => String.lt_irrefl key (by rwa [← same] at h)
  have below : ¬ key < name := fun greater => String.lt_irrefl key (String.lt_trans greater h)
  rw [get?, if_neg different, get?_of_not_above rest below]

theorem get?_cons_eq_some {key name : String} {above : ∀ b ∈ bound, b < key}
    {value v : Document} {rest : Members (some key)} :
    (cons key above value rest).get? name = some v ↔
      (key = name ∧ value = v) ∨ rest.get? name = some v := by
  rw [get?]
  split
  · next same =>
    subst same
    rw [get?_of_not_above rest (String.lt_irrefl key)]
    simp
  · next different => simp [different]

theorem eq_of_get?_eq : {bound : Option String} → (ms ns : Members bound) →
    (∀ name, ms.get? name = ns.get? name) → ms = ns
  | _, .nil, .nil, _ => rfl
  | _, .nil, .cons key above value rest, same => by
    have missing := same key
    rw [get?_nil, get?_cons_self] at missing
    cases missing
  | _, .cons key above value rest, .nil, same => by
    have missing := same key
    rw [get?_nil, get?_cons_self] at missing
    cases missing
  | _, .cons key above value rest, .cons key' above' value' rest', same => by
    -- The first name of either is found in the other, so neither is below the other.
    have first := same key
    have first' := same key'
    rw [get?_cons_self] at first first'
    have not_below : ¬ key < key' := by
      intro below
      rw [get?_cons_of_lt below] at first
      cases first
    have not_above : ¬ key' < key := by
      intro below
      rw [get?_cons_of_lt below] at first'
      cases first'
    obtain rfl : key = key' := String.le_antisymm (String.not_lt.1 not_above)
      (String.not_lt.1 not_below)
    rw [get?_cons_self] at first
    obtain rfl : value = value' := Option.some.inj first
    have tail : rest = rest' := by
      refine eq_of_get?_eq rest rest' fun name => ?_
      by_cases h : key = name
      · subst h
        rw [get?_of_not_above rest (String.lt_irrefl key),
          get?_of_not_above rest' (String.lt_irrefl key)]
      · simpa only [get?, if_neg h] using same name
    rw [tail]

/-! ### Lists -/

/-- What holds of no members, and of a member before others of which it holds, holds of all. -/
theorem members_induction {P : (bound : Option String) → Members bound → Prop}
    (nil : ∀ bound, P bound .nil)
    (cons : ∀ bound key above value rest, P (some key) rest → P bound (.cons key above value rest))
    (bound : Option String) (ms : Members bound) : P bound ms := by
  induction listed : ms.toList generalizing bound with
  | nil =>
    cases ms with
    | nil => exact nil bound
    | cons key above value rest => cases listed
  | cons entry entries ih =>
    cases ms with
    | nil => cases listed
    | cons key above value rest =>
      exact cons bound key above value rest (ih (some key) rest (List.cons.inj listed).2)

theorem mem_toList {name : String} {value : Document} (ms : Members bound) :
    (name, value) ∈ ms.toList ↔ ms.get? name = some value := by
  induction bound, ms using members_induction with
  | nil => simp
  | cons _ key above held rest ih =>
    rw [toList_cons, List.mem_cons, get?_cons_eq_some, ih, Prod.mk.injEq, eq_comm (a := name),
      eq_comm (a := value)]

theorem pairwise_toList (ms : Members bound) :
    (ms.toList.Pairwise fun a b => a.1 < b.1) ∧ ∀ e ∈ ms.toList, ∀ b ∈ bound, b < e.1 := by
  induction bound, ms using members_induction with
  | nil => exact ⟨.nil, by simp⟩
  | cons _ key above held rest ih =>
    obtain ⟨increasing, higher⟩ := ih
    have first : ∀ e ∈ rest.toList, key < e.1 := fun e among => higher e among key rfl
    refine ⟨.cons first increasing, ?_⟩
    intro e among b bounds
    cases List.mem_cons.1 among with
    | inl here => exact here ▸ above b bounds
    | inr later => exact String.lt_trans (above b bounds) (first e later)

theorem get?_foldl_set (name : String) (ms : Members bound) (start : Members none) :
    (ms.toList.foldl (fun ms e => ms.set e.1 e.2) start).get? name =
      (ms.get? name).or (start.get? name) := by
  induction bound, ms using members_induction generalizing start with
  | nil => rfl
  | cons _ key above held rest ih =>
    rw [toList_cons, List.foldl_cons, ih, get?]
    by_cases same : key = name
    · subst same
      rw [if_pos rfl, get?_of_not_above rest (String.lt_irrefl key), get?_set_self]
      rfl
    · rw [if_neg same, get?_set_of_ne fun h => same h.symm]

theorem ofList_toList (ms : Members none) : ofList ms.toList = ms := by
  refine eq_of_get?_eq _ _ fun name => ?_
  rw [ofList, get?_foldl_set, get?_nil, Option.or_none]

/-! ### Optional values -/

def assign (name : String) (value : Option Document) (ms : Members none) : Members none :=
  match value with
  | some v => ms.set name v
  | none => ms.erase name

variable (name : String) (value : Option Document) (ms : Members none)

theorem get?_assign (other : String) :
    (ms.assign name value).get? other = if other = name then value else ms.get? other := by
  by_cases h : other = name
  · subst h
    cases value with
    | none => rw [if_pos rfl, assign, get?_erase_self]
    | some v => rw [if_pos rfl, assign, get?_set_self]
  · cases value with
    | none => rw [if_neg h, assign, get?_erase_of_ne h]
    | some v => rw [if_neg h, assign, get?_set_of_ne h]

@[simp] theorem assign_assign (value' : Option Document) :
    (ms.assign name value).assign name value' = ms.assign name value' := by
  refine eq_of_get?_eq _ _ fun other => ?_
  rw [get?_assign, get?_assign, get?_assign]
  split <;> rfl

@[simp] theorem assign_get? : ms.assign name (ms.get? name) = ms := by
  refine eq_of_get?_eq _ _ fun other => ?_
  rw [get?_assign]
  split
  · next same => rw [same]
  · rfl

variable {name ms}

theorem set_of_get? {v : Document} (held : ms.get? name = some v) : ms.set name v = ms := by
  have same : ms.assign name (some v) = ms := by rw [← held, assign_get?]
  exact same

theorem erase_of_get? (absent : ms.get? name = none) : ms.erase name = ms := by
  have same : ms.assign name none = ms := by rw [← absent, assign_get?]
  exact same

end Pagewise.Members
