import Pagewise.Proofs.Model.Entries

/-!
What is found under a name is told by the shapes of the model, each under its key. A name with a `#`
stands for the shape with this ID, and any other one for the operation that alone has it for a short
name. So an operation of the listing has its entry's trait under both, if nothing shares its name.
-/
namespace Pagewise.Model

variable {m : Model} {name id : String}

def IsOperation (m : Model) (id : String) : Prop :=
  ∃ shape, m.shapes.get? id = some (.operation shape)

def Named (m : Model) (name id : String) : Prop := m.IsOperation id ∧ shortName id = name

/-- What a look-up says to a name. -/
inductive Answers (m : Model) (name : String) : Except Error String → Prop where
  | itself (absolute : isAbsolute name = true) (held : m.IsOperation name) :
    Answers m name (.ok name)
  | other (absolute : isAbsolute name = true) {s : Shape} (held : m.shapes.get? name = some s)
    (different : s.asOperation? = none) :
    Answers m name (.error (.config ("Shape '" ++ name ++ "' is not an operation")))
  | absent (absolute : isAbsolute name = true) (absent : m.shapes.get? name = none) :
    Answers m name (.error (.unknownShape name))
  | only (relative : isAbsolute name = false) {id : String}
    (only : ∀ id', m.Named name id' ↔ id' = id) : Answers m name (.ok id)
  | nothing (relative : isAbsolute name = false) (unnamed : ∀ id, ¬ m.Named name id) :
    Answers m name (.error (.unknownShape name))
  | several (relative : isAbsolute name = false) {ids : List String} (several : 2 ≤ ids.length)
    (ordered : ids.Pairwise (· < ·)) (all : ∀ id, id ∈ ids ↔ m.Named name id) :
    Answers m name (.error (.ambiguousOperation name (", ".intercalate ids)))

/-! ### Candidates -/

theorem pairwise_operationsNamed (m : Model) (name : String) :
    (m.operationsNamed name).Pairwise (· < ·) := by
  apply Ordered.pairwise_sortOn
  exact m.shapes.nodup.sublist (List.filter_sublist.map Prod.fst)

theorem operationsNamed_eq {ids : List String} (ordered : ids.Pairwise (· < ·))
    (all : ∀ id, id ∈ ids ↔ m.Named name id) : m.operationsNamed name = ids := by
  refine Ordered.eq_of_pairwise (m.pairwise_operationsNamed name) ordered fun id => ?_
  rw [all, mem_operationsNamed]
  rfl

/-! ### Answers -/

theorem answers_findOperation (m : Model) (name : String) :
    m.Answers name (m.findOperation name) := by
  cases is_absolute : isAbsolute name with
  | true =>
    rw [findOperation, if_pos is_absolute]
    cases held : m.shapes.get? name with
    | none => exact .absent is_absolute held
    | some s =>
      cases s with
      | operation shape => exact .itself is_absolute ⟨shape, held⟩
      | _ => exact .other is_absolute held rfl
  | false =>
    have ordered := m.pairwise_operationsNamed name
    have all : ∀ id, id ∈ m.operationsNamed name ↔ m.Named name id := fun _ => mem_operationsNamed
    rw [findOperation, if_neg (Bool.eq_false_iff.1 is_absolute)]
    generalize m.operationsNamed name = ids at ordered all
    cases ids with
    | nil => exact .nothing is_absolute fun id named => List.not_mem_nil ((all id).2 named)
    | cons id more =>
      cases more with
      | nil => exact .only is_absolute fun id' => by rw [← all, List.mem_singleton]
      | cons other more => exact .several is_absolute (by simp) ordered all

theorem findOperation_of_answers {r : Except Error String} (h : m.Answers name r) :
    m.findOperation name = r := by
  cases h with
  | itself absolute held => exact (findOperation_absolute absolute).2 ⟨rfl, held⟩
  | other absolute held different =>
    rw [findOperation, if_pos absolute, held]
    split
    · next shape is => cases is; cases different
    · rfl
    · next is => cases is
  | absent absolute absent => rw [findOperation, if_pos absolute, absent]
  | @only relative id only =>
    have candidates : m.operationsNamed name = [id] :=
      operationsNamed_eq (List.pairwise_singleton _ _) fun id' => by rw [only, List.mem_singleton]
    exact (findOperation_relative relative).2 candidates
  | nothing relative unnamed =>
    have candidates : m.operationsNamed name = [] :=
      operationsNamed_eq .nil fun id => iff_of_false List.not_mem_nil (unnamed id)
    rw [findOperation, if_neg (Bool.eq_false_iff.1 relative), candidates]
  | @several relative ids several ordered all =>
    rw [findOperation, if_neg (Bool.eq_false_iff.1 relative), operationsNamed_eq ordered all]
    cases ids with
    | nil => simp at several
    | cons id more =>
      cases more with
      | nil => simp at several
      | cons other more => rfl

theorem findOperation_eq_iff {r : Except Error String} :
    m.findOperation name = r ↔ m.Answers name r :=
  ⟨fun h => h ▸ m.answers_findOperation name, findOperation_of_answers⟩

/-- The answer to a name is told by the operations of the model. What is found is one of them, has the
name for its ID or its short name, and is found under its ID; and the listed trait of an operation is
found under its ID, and under its short name if no other operation has that. -/
theorem findOperation_exact (m : Model) :
    (∀ name r, m.findOperation name = r ↔ m.Answers name r) ∧
    (∀ name id, m.findOperation name = .ok id →
      m.IsOperation id ∧ (id = name ∨ shortName id = name) ∧ m.findOperation id = .ok id) ∧
    ∀ entries, m.paginatedOperations = .ok entries → ∀ entry ∈ entries,
      isAbsolute entry.operation = true →
      m.paginatedTrait entry.operation = .ok entry.paginated ∧
      ((∀ id, m.Named (shortName entry.operation) id → id = entry.operation) →
        m.paginatedTrait (shortName entry.operation) = .ok entry.paginated) := by
  refine ⟨fun _ _ => findOperation_eq_iff, ?_, ?_⟩
  · intro name id found
    obtain ⟨is_operation, again⟩ := findOperation_found found
    refine ⟨is_operation, ?_, again⟩
    cases findOperation_eq_iff.1 found with
    | itself => exact .inl rfl
    | only _ only => exact .inr ((only id).2 rfl).2
  · intro entries listed entry among absolute
    obtain ⟨shape, held, _⟩ := (mem_paginatedOperations listed).1 among
    have itself : m.findOperation entry.operation = .ok entry.operation :=
      findOperation_of_answers (.itself absolute ⟨shape, held⟩)
    refine ⟨(paginatedTrait_eq_ok itself).2 ⟨entries, entry, listed, among, rfl, rfl⟩, ?_⟩
    intro alone
    have only : ∀ id, m.Named (shortName entry.operation) id ↔ id = entry.operation := by
      intro id
      refine ⟨alone id, ?_⟩
      rintro rfl
      exact ⟨⟨shape, held⟩, rfl⟩
    have found : m.findOperation (shortName entry.operation) = .ok entry.operation :=
      findOperation_of_answers (.only (isAbsolute_shortName _) only)
    exact (paginatedTrait_eq_ok found).2 ⟨entries, entry, listed, among, rfl, rfl⟩

/-- The listing of names beside two operations that have a short name in common. -/
def listingAmongCounts : Model where
  version := listing.version
  shapes :=
    let count : Shape := .operation ⟨none, none, .ofList [(PaginatedTrait.id, .emptyObject)]⟩
    (listing.shapes.insert "example#Count" count).insert "other#Count" count

theorem listing_found :
    let m := listingAmongCounts
    let entry : PaginatedEntry := ⟨"example#List", none,
      ⟨some "Token", some "Paging.Next", some "Names", some "Size"⟩⟩
    let count (id : String) : PaginatedEntry := ⟨id, none, default⟩
    m.paginatedOperations = .ok [count "example#Count", entry, count "other#Count"] ∧
      isAbsolute "example#List" = true ∧
      m.paginatedTrait "example#List" = .ok entry.paginated ∧
      (∀ id, m.Named "List" id → id = "example#List") ∧
      m.paginatedTrait "List" = .ok entry.paginated ∧
      m.findOperation "Count" =
        .error (.ambiguousOperation "Count" "example#Count, other#Count") := by
  intro m entry count
  have listed : m.paginatedOperations = .ok [count "example#Count", entry, count "other#Count"] := rfl
  have absolute : isAbsolute "example#List" = true := by decide
  have alone : ∀ id, m.Named "List" id → id = "example#List" := by
    intro id named
    have candidates : m.operationsNamed "List" = ["example#List"] := rfl
    have among : id ∈ m.operationsNamed "List" := mem_operationsNamed.2 named
    rw [candidates] at among
    exact List.mem_singleton.1 among
  have shared : ∀ id, id ∈ ["example#Count", "other#Count"] ↔ m.Named "Count" id := by
    intro id
    have candidates : m.operationsNamed "Count" = ["example#Count", "other#Count"] := rfl
    rw [← candidates]
    exact mem_operationsNamed
  have short : shortName "example#List" = "List" := by decide
  obtain ⟨answers, _, found⟩ := findOperation_exact m
  obtain ⟨under_id, under_name⟩ : m.paginatedTrait "example#List" = .ok entry.paginated ∧
      ((∀ id, m.Named (shortName "example#List") id → id = "example#List") →
        m.paginatedTrait (shortName "example#List") = .ok entry.paginated) :=
    found _ listed entry (by simp) absolute
  rw [short] at under_name
  exact ⟨listed, absolute, under_id, alone, under_name alone,
    (answers "Count" _).2 (.several (by decide) (by decide) (by decide) shared)⟩

end Pagewise.Model
