import Pagewise.Proofs.Document.Access

/-!
Paths as lenses. What is written is read back, a later write at the same path makes an earlier one
void, and writing what was read changes nothing. Paths neither of which leads through the other keep
apart: what is read at one of them does not depend on a write at the other, even where the write puts
an object in the place of something else. To take is to read and to remove.
-/
namespace Pagewise.Path

/-! ### Members after a write -/

def writeAt (value : Option Document) (names : List String) (d : Document) : Document :=
  match value with
  | some v => insertAt v names d
  | none => removeAt names d

variable (value : Option Document) (name : String) (names : List String) (d : Document)

theorem readAt_cons : readAt (name :: names) d = (d.member? name).bind (readAt names) := by
  cases d <;> rfl

theorem member?_writeAt_last : (writeAt value [name] d).member? name = value := by
  cases value with
  | some v => exact Members.get?_set_self name v _
  | none =>
    cases d with
    | object ms => exact Members.get?_erase_self name ms
    | _ => rfl

theorem member?_writeAt_more {names : List String} (more : names ≠ []) :
    (writeAt value (name :: names) d).member? name =
      ((d.member? name).or (value.map fun _ => .null)).map (writeAt value names) := by
  cases value with
  | some v =>
    rw [writeAt, insertAt, Document.member?_object, Members.get?_set_self, Document.member?]
    cases (membersOf d).get? name <;> rfl
  | none =>
    obtain ⟨next, rest, rfl⟩ := List.exists_cons_of_ne_nil more
    cases d with
    | object ms =>
      rw [writeAt, removeAt, Document.member?_object]
      cases held : ms.get? name with
      | none => exact held
      | some child => exact Members.get?_set_self name _ ms
    | _ => rfl

theorem member?_writeAt_of_ne {other : String} (h : other ≠ name) :
    (writeAt value (name :: names) d).member? other = d.member? other := by
  cases value with
  | some v => exact Members.get?_set_of_ne h _ _
  | none =>
    cases d with
    | object ms =>
      cases names with
      | nil => exact Members.get?_erase_of_ne h ms
      | cons next rest =>
        rw [writeAt, removeAt]
        cases ms.get? name with
        | none => rfl
        | some child => exact Members.get?_set_of_ne h _ ms
    | _ => cases names <;> rfl

/-! ### Reading after a write -/

theorem readAt_writeAt (nonempty : names ≠ []) : readAt names (writeAt value names d) = value := by
  induction names generalizing d with
  | nil => exact absurd rfl nonempty
  | cons name rest ih =>
    rw [readAt_cons]
    cases rest with
    | nil => rw [member?_writeAt_last]; cases value <;> rfl
    | cons next rest =>
      have later := fun child => ih child (List.cons_ne_nil next rest)
      rw [member?_writeAt_more value name d (List.cons_ne_nil next rest)]
      cases d.member? name with
      | some child => exact later child
      | none =>
        cases value with
        | some v => exact later .null
        | none => rfl

/-- Names that part before either of them ends. -/
inductive Apart : List String → List String → Prop where
  | here {name name' : String} (differ : name' ≠ name) (rest rest' : List String) :
    Apart (name :: rest) (name' :: rest')
  | later (name : String) {rest rest' : List String} (apart : Apart rest rest') :
    Apart (name :: rest) (name :: rest')

theorem Apart.of_not_leading : {names names' : List String} → ¬ names <+: names' →
    ¬ names' <+: names → Apart names names'
  | [], names', h, _ => absurd List.nil_prefix h
  | names, [], _, h => absurd List.nil_prefix h
  | name :: rest, name' :: rest', h, h' => by
    by_cases same : name' = name
    · subst same
      rw [List.prefix_cons_inj] at h h'
      exact .later name' (.of_not_leading h h')
    · exact .here same rest rest'

theorem Apart.nonempty {names names' : List String} (h : Apart names names') :
    names ≠ [] ∧ names' ≠ [] := by
  cases h <;> exact ⟨List.cons_ne_nil _ _, List.cons_ne_nil _ _⟩

theorem readAt_null {names : List String} (h : names ≠ []) : readAt names .null = none := by
  cases names with
  | nil => exact absurd rfl h
  | cons name rest => rfl

theorem readAt_writeAt_of_apart {names names' : List String} (apart : Apart names names') :
    readAt names' (writeAt value names d) = readAt names' d := by
  induction apart generalizing d with
  | here differ rest rest' => rw [readAt_cons, readAt_cons, member?_writeAt_of_ne _ _ _ _ differ]
  | later name apart ih =>
    rw [readAt_cons, readAt_cons, member?_writeAt_more value name d apart.nonempty.1]
    cases d.member? name with
    | some child => exact ih child
    | none =>
      cases value with
      -- Nothing was there to read, and a new object holds nothing but what leads to the value.
      | some v => exact (ih .null).trans (readAt_null apart.nonempty.2)
      | none => rfl

/-! ### Writing after a read or a write -/

theorem insertAt_cons_congr {v : Document} {d d' : Document}
    (others : ∀ other, other ≠ name → d.member? other = d'.member? other)
    (below : insertAt v names ((d.member? name).getD .null) =
      insertAt v names ((d'.member? name).getD .null)) :
    insertAt v (name :: names) d = insertAt v (name :: names) d' := by
  refine congrArg Document.object (Members.eq_of_get?_eq _ _ fun other => ?_)
  by_cases here : other = name
  · rw [here, Members.get?_set_self, Members.get?_set_self]
    exact congrArg some below
  · rw [Members.get?_set_of_ne here, Members.get?_set_of_ne here]
    exact others other here

theorem insertAt_writeAt (w : Document) :
    insertAt w names (writeAt value names d) = insertAt w names d := by
  induction names generalizing d with
  | nil => rfl
  | cons name rest ih =>
    refine insertAt_cons_congr name rest
      (fun other h => member?_writeAt_of_ne value name rest d h) ?_
    cases rest with
    | nil => rfl
    | cons next rest =>
      rw [member?_writeAt_more value name d (List.cons_ne_nil next rest)]
      cases d.member? name with
      | some child => exact ih child
      | none =>
        cases value with
        | some v => exact ih .null
        | none => rfl

theorem insertAt_of_leads {names : List String} {d v : Document} (h : d.Leads names v) :
    insertAt v names d = d := by
  induction h with
  | here d => rfl
  | @member name ms child v rest held later ih =>
    rw [insertAt, membersOf, held, Option.getD_some, ih, Members.set_of_get? held]

/-- The laws of a lens: null counts as absent, `none` removes, and paths that keep apart, in that
neither is a prefix of the other, see nothing of each other. -/
theorem lens_laws (p : Path) (d : Document) :
    (∀ v, p.read (p.write (some v) d) = if v.isNull then none else some v) ∧
    p.read (p.write none d) = none ∧
    (∀ q : Path, ¬ p.segments <+: q.segments → ¬ q.segments <+: p.segments →
      ∀ value, q.read (p.write value d) = q.read d) ∧
    (∀ value w, p.write (some w) (p.write value d) = p.write (some w) d) ∧
    ∀ v, p.read d = some v → p.write (some v) d = d := by
  have read_back : ∀ value, p.read (p.write value d) = value.bind nonNull := fun value =>
    congrArg (Option.bind · nonNull) (readAt_writeAt value p.segments d p.nonempty)
  refine ⟨fun v => read_back (some v), read_back none, ?_, ?_, ?_⟩
  · intro q not_through not_inside value
    exact congrArg (Option.bind · nonNull)
      (readAt_writeAt_of_apart value d (.of_not_leading not_through not_inside))
  · intro value w
    exact insertAt_writeAt value p.segments d w
  · intro v found
    exact insertAt_of_leads (read_eq_some.1 found).1

theorem lens_laws_through_number :
    let next : Path := ⟨["Paging", "Next"], by decide, by decide⟩
    let more : Path := ⟨["Paging", "More"], by decide, by decide⟩
    let before := Document.ofPairs [("Paging", .ofNat 5)]
    let after := next.write (some (.string "b")) before
    (¬ next.segments <+: more.segments ∧ ¬ more.segments <+: next.segments ∧
      more.read after = more.read before) ∧
    next.read after = some (.string "b") ∧ next.write (some (.string "b")) after = after := by
  intro next more before after
  obtain ⟨read_back, _, frame, _, _⟩ := lens_laws next before
  obtain ⟨_, _, _, _, unchanged⟩ := lens_laws next after
  have not_through : ¬ next.segments <+: more.segments := by decide
  have not_inside : ¬ more.segments <+: next.segments := by decide
  have found : next.read after = some (.string "b") := read_back (.string "b")
  exact ⟨⟨not_through, not_inside, frame more not_through not_inside _⟩, found,
    unchanged _ found⟩

/-! ### Taking -/

theorem snd_takeAt (names : List String) (d : Document) :
    (takeAt names d).2 = removeAt names d := by
  fun_induction takeAt names d with
  | case1 d => rfl
  | case2 leaf ms => rfl
  | case3 s next rest ms held => simp only [removeAt, held]
  | case4 s next rest ms child held taken left is ih =>
    rw [is] at ih
    simp only [removeAt, held, ← ih]
  | case5 name rest d not_last not_more => rw [removeAt] <;> assumption

theorem removeAt_of_readAt {names : List String} {d : Document} (h : readAt names d = none) :
    removeAt names d = d := by
  fun_induction removeAt names d with
  | case1 d => rfl
  | case2 leaf ms =>
    rw [readAt_cons, Document.member?_object] at h
    have absent : ms.get? leaf = none := by simpa [readAt] using h
    rw [Members.erase_of_get? absent]
  | case3 s next rest ms held => rfl
  | case4 s next rest ms child held ih =>
    rw [readAt_cons, Document.member?_object, held, Option.bind_some] at h
    rw [ih h, Members.set_of_get? held]
  | case5 => rfl

/-- What is taken is what is read, and what is left is what is left by a removal. So a null is taken
away though nothing is returned, and nothing changes unless every name leads on. -/
theorem take_eq_read_remove (p : Path) (d : Document) :
    p.take d = (p.read d, p.write none d) ∧
    (d.Leads p.segments .null → (p.take d).1 = none ∧ ∀ v, ¬ (p.take d).2.Leads p.segments v) ∧
    ((∀ v, ¬ d.Leads p.segments v) → p.take d = (none, d)) := by
  have both : p.take d = (p.read d, p.write none d) :=
    Prod.ext (fst_take p d) (snd_takeAt p.segments d)
  refine ⟨both, fun null => ?_, fun missing => ?_⟩
  · rw [both]
    constructor
    · rw [read, readAt_eq_some.2 null]
      rfl
    · intro v left
      have removed : readAt p.segments (p.write none d) = none :=
        readAt_writeAt none p.segments d p.nonempty
      cases removed.symm.trans (readAt_eq_some.2 left)
  · have nothing : readAt p.segments d = none :=
      Option.eq_none_iff_forall_ne_some.2 fun v found => missing v (readAt_eq_some.1 found)
    rw [both, read, nothing]
    exact congrArg (Prod.mk none) (removeAt_of_readAt nothing)

theorem take_null :
    let next : Path := ⟨["Paging", "Next"], by decide, by decide⟩
    let last := Document.ofPairs [("Paging", .ofPairs [("Next", .null)])]
    let text := Document.ofPairs [("Paging", .string "Next")]
    (last.Leads next.segments .null ∧ (next.take last).1 = none ∧
      ∀ v, ¬ (next.take last).2.Leads next.segments v) ∧
    (∀ v, ¬ text.Leads next.segments v) ∧ next.take text = (none, text) := by
  intro next last text
  have null : last.Leads next.segments .null := readAt_eq_some.1 rfl
  have missing : ∀ v, ¬ text.Leads next.segments v := by
    intro v found
    have nothing : readAt next.segments text = none := rfl
    cases nothing.symm.trans (readAt_eq_some.2 found)
  exact ⟨⟨null, (take_eq_read_remove next last).2.1 null⟩, missing,
    (take_eq_read_remove next text).2.2 missing⟩

end Pagewise.Path
