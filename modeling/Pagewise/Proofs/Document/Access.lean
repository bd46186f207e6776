import Pagewise.Document.Path
import Pagewise.Proofs.Document.Members

/-!
What paths do to documents, as equations on members. A path of one name reads, sets and removes a
member of an object; a path of any length takes out what it reads.
-/
namespace Pagewise

namespace Document

def member? (name : String) (d : Document) : Option Document := (Path.membersOf d).get? name

@[simp] theorem member?_object (name : String) (ms : Members none) :
    (object ms).member? name = ms.get? name := rfl

theorem isNull_eq_false {d : Document} : d.isNull = false ↔ d ≠ .null := by
  cases d <;> simp [isNull]

/-- Names lead from a document to a value if each one is a member of an object on the way. -/
inductive Leads : Document → List String → Document → Prop where
  | here (d : Document) : Leads d [] d
  | member {name : String} {ms : Members none} {child v : Document} {rest : List String}
    (held : ms.get? name = some child) (later : child.Leads rest v) :
    Leads (.object ms) (name :: rest) v

end Document

namespace Path

@[simp] theorem nonNull_eq_some {d v : Document} :
    nonNull d = some v ↔ d = v ∧ v.isNull = false := by
  rw [nonNull]
  split
  · next h =>
    simp only [reduceCtorEq, false_iff, not_and, Bool.not_eq_false]
    rintro rfl
    exact h
  · next h =>
    rw [Bool.not_eq_true] at h
    simp only [Option.some.injEq]
    constructor
    · rintro rfl
      exact ⟨rfl, h⟩
    · rintro ⟨rfl, _⟩
      rfl

theorem isNull_of_read {p : Path} {d v : Document} (h : p.read d = some v) : v.isNull = false := by
  obtain ⟨w, _, kept⟩ := Option.bind_eq_some_iff.1 h
  exact (nonNull_eq_some.1 kept).2

theorem readAt_of_read {p : Path} {d v : Document} (h : p.read d = some v) :
    readAt p.segments d = some v := by
  obtain ⟨w, found, kept⟩ := Option.bind_eq_some_iff.1 h
  rw [found, (nonNull_eq_some.1 kept).1]

theorem readAt_eq_some {v : Document} : {names : List String} → {d : Document} →
    (readAt names d = some v ↔ d.Leads names v)
  | [], d => by
    rw [readAt, Option.some.injEq]
    constructor
    · rintro rfl
      exact .here d
    · rintro ⟨⟩
      rfl
  | name :: rest, .object ms => by
    rw [readAt, Option.bind_eq_some_iff]
    constructor
    · rintro ⟨child, held, later⟩
      exact .member held (readAt_eq_some.1 later)
    · rintro (_ | ⟨held, later⟩)
      exact ⟨_, held, readAt_eq_some.2 later⟩
  | _ :: _, .null | _ :: _, .bool _ | _ :: _, .number _ | _ :: _, .string _ | _ :: _, .array _ => by
    rw [readAt]
    · simp only [reduceCtorEq, false_iff]
      rintro ⟨⟩
    · simp

theorem read_eq_some {p : Path} {d v : Document} :
    p.read d = some v ↔ d.Leads p.segments v ∧ v ≠ .null := by
  rw [read, Option.bind_eq_some_iff]
  simp only [nonNull_eq_some, readAt_eq_some, Document.isNull_eq_false]
  constructor
  · rintro ⟨_, found, rfl, kept⟩
    exact ⟨found, kept⟩
  · rintro ⟨found, kept⟩
    exact ⟨v, found, rfl, kept⟩

theorem read_eq_none {p : Path} {d : Document} :
    p.read d = none ↔ ∀ v, d.Leads p.segments v → v = .null := by
  rw [Option.eq_none_iff_forall_ne_some]
  simp only [ne_eq, read_eq_some, not_and, Classical.not_not]

/-! ### Paths of one name -/

def top (p : Path) : String := p.segments.head p.nonempty

theorem segments_of_isTopLevel {p : Path} (h : p.isTopLevel = true) : p.segments = [p.top] := by
  obtain ⟨segments, nonempty, valid⟩ := p
  obtain ⟨name, rfl⟩ := List.length_eq_one_iff.1 (beq_iff_eq.1 h)
  rfl

theorem eq_of_top_eq {p q : Path} (hp : p.isTopLevel = true) (hq : q.isTopLevel = true)
    (h : p.top = q.top) : p = q := by
  have same : p.segments = q.segments := by
    rw [segments_of_isTopLevel hp, segments_of_isTopLevel hq, h]
  cases p
  cases q
  cases same
  rfl

theorem read_eq {p : Path} (h : p.isTopLevel = true) (d : Document) :
    p.read d = (d.member? p.top).bind nonNull := by
  rw [read, segments_of_isTopLevel h]
  cases d with
  | object ms =>
    rw [readAt, Document.member?_object]
    cases ms.get? p.top <;> rfl
  | _ => rfl

theorem write_object {p : Path} (h : p.isTopLevel = true) (value : Option Document)
    (ms : Members none) :
    p.write value (.object ms) = .object (ms.assign p.top value) := by
  cases value with
  | none => rw [write, segments_of_isTopLevel h]; rfl
  | some v => rw [write, segments_of_isTopLevel h]; rfl

/-! ### Taking -/

theorem fst_takeAt : (segments : List String) → segments ≠ [] → (d : Document) →
    (takeAt segments d).1 = readAt segments d
  | [leaf], _, .object ms => by
    rw [takeAt, readAt]
    cases ms.get? leaf <;> rfl
  | s :: next :: rest, _, .object ms => by
    rw [takeAt, readAt]
    cases ms.get? s with
    | none => rfl
    | some child => exact fst_takeAt (next :: rest) (List.cons_ne_nil _ _) child
  | s :: rest, _, .null => by cases rest <;> rfl
  | s :: rest, _, .bool _ => by cases rest <;> rfl
  | s :: rest, _, .number _ => by cases rest <;> rfl
  | s :: rest, _, .string _ => by cases rest <;> rfl
  | s :: rest, _, .array _ => by cases rest <;> rfl

theorem fst_take (p : Path) (d : Document) : (p.take d).1 = p.read d := by
  rw [read, ← fst_takeAt p.segments p.nonempty d]
  rfl

end Path

end Pagewise
