import Pagewise.Model.Basic

/-!
Operations looked up by name. What is found is an operation of the model; looked up by its own ID, an
operation is itself or ambiguous.
-/
namespace Pagewise.Model

variable {m : Model} {id name found : String}

theorem shortName_of_not_absolute (h : isAbsolute id = false) : shortName id = id := by
  have plain : ∀ c ∈ id.toList.reverse, (c != '#') = true := by
    intro c hc
    rw [bne_iff_ne]
    rintro rfl
    rw [isAbsolute, List.contains_iff_mem.2 (List.mem_reverse.1 hc)] at h
    cases h
  rw [shortName, ← List.append_nil id.toList.reverse, List.takeWhile_append_of_pos plain,
    List.takeWhile_nil, List.append_nil, List.reverse_reverse, String.ofList_toList]

theorem isAbsolute_shortName (id : String) : isAbsolute (shortName id) = false := by
  rw [Bool.eq_false_iff]
  intro absolute
  have among : '#' ∈ id.toList.reverse.takeWhile (· != '#') := by
    rw [isAbsolute, shortName, String.toList_ofList, List.contains_iff_mem,
      List.mem_reverse] at absolute
    exact absolute
  have plain : (id.toList.reverse.takeWhile (· != '#')).all (· != '#') = true := List.all_takeWhile
  exact absurd (List.all_eq_true.1 plain '#' among) (by decide)

theorem mem_operationsNamed : id ∈ m.operationsNamed name ↔
    (∃ shape, m.shapes.get? id = some (.operation shape)) ∧ shortName id = name := by
  rw [operationsNamed, Ordered.sort, Ordered.mem_sortOn, List.mem_map]
  constructor
  · rintro ⟨⟨key, s⟩, among, rfl⟩
    obtain ⟨held, fits⟩ := List.mem_filter.1 among
    simp only [Bool.and_eq_true, beq_iff_eq] at fits
    have is : m.shapes.get? key = some s := Table.get?_eq_some.2 held
    cases s with
    | operation shape => exact ⟨⟨shape, is⟩, fits.2⟩
    | _ => simp [Shape.asOperation?] at fits
  · rintro ⟨⟨shape, held⟩, rfl⟩
    refine ⟨(id, .operation shape), List.mem_filter.2 ⟨Table.get?_eq_some.1 held, ?_⟩, rfl⟩
    simp [Shape.asOperation?]

theorem findOperation_absolute (absolute : isAbsolute name = true) :
    m.findOperation name = .ok id ↔
      id = name ∧ ∃ shape, m.shapes.get? name = some (.operation shape) := by
  rw [findOperation, if_pos absolute]
  cases held : m.shapes.get? name with
  | none => simp
  | some s => cases s <;> simp [eq_comm]

theorem findOperation_relative (relative : isAbsolute name = false) :
    m.findOperation name = .ok id ↔ m.operationsNamed name = [id] := by
  rw [findOperation, if_neg (Bool.eq_false_iff.1 relative)]
  split
  · next none_named => simp [none_named]
  · next only => simp [only]
  · next _ _ more => exact iff_of_false (by simp) (more id)

/-- What is found is an operation, and is found under its own ID. -/
theorem findOperation_found (h : m.findOperation name = .ok id) :
    (∃ shape, m.shapes.get? id = some (.operation shape)) ∧ m.findOperation id = .ok id := by
  cases is_absolute : isAbsolute name with
  | true =>
    obtain ⟨rfl, held⟩ := (findOperation_absolute is_absolute).1 h
    exact ⟨held, h⟩
  | false =>
    have only := (findOperation_relative is_absolute).1 h
    have named : id ∈ m.operationsNamed name := by simp [only]
    obtain ⟨held, short⟩ := mem_operationsNamed.1 named
    refine ⟨held, ?_⟩
    cases absolute : isAbsolute id with
    | true => exact (findOperation_absolute absolute).2 ⟨rfl, held⟩
    | false =>
      -- An ID without a namespace is its own short name, which is what was asked for.
      obtain rfl : id = name := (shortName_of_not_absolute absolute).symm.trans short
      exact h

theorem findOperation_eq_ok {shape : OperationShape}
    (held : (id, .operation shape) ∈ m.shapes.entries) (h : m.findOperation id = .ok found) :
    found = id := by
  cases absolute : isAbsolute id with
  | true => exact ((findOperation_absolute absolute).1 h).1
  | false =>
    -- An ID without a namespace is its own short name, so it is one of the candidates.
    have named : id ∈ m.operationsNamed id :=
      mem_operationsNamed.2 ⟨⟨shape, Table.get?_eq_some.2 held⟩, shortName_of_not_absolute absolute⟩
    rw [(findOperation_relative absolute).1 h, List.mem_singleton] at named
    exact named.symm

end Pagewise.Model
