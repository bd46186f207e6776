import Pagewise.Http.Header
import Pagewise.Proofs.Arrangement

/-!
Configured headers in some order. They are set one after another, up to the first one at fault, and of
the spellings of a name the last one counts.
-/
namespace Pagewise.Headers

/-! ### Faults -/

def fault? (e : String × String) : Option Error :=
  if !isName e.1 then some (.invalidValue ("http.headers." ++ e.1) badName)
  else if !isValue e.2 then some (.invalidValue ("http.headers." ++ e.1) badValue)
  else none

theorem fault?_eq_some {e : String × String} {x : Error} (h : fault? e = some x) :
    ∃ text, x = .invalidValue ("http.headers." ++ e.1) text := by
  unfold fault? at h
  split at h
  · exact ⟨_, (Option.some.inj h).symm⟩
  · split at h
    · exact ⟨_, (Option.some.inj h).symm⟩
    · cases h

theorem fault?_telling (a b : String × String) (x : Error) (ha : fault? a = some x)
    (hb : fault? b = some x) : a.1 = b.1 := by
  obtain ⟨text, rfl⟩ := fault?_eq_some ha
  obtain ⟨text', same⟩ := fault?_eq_some hb
  rw [Error.invalidValue.injEq, String.append_right_inj] at same
  exact same.1

theorem ofEntries_eq (entries : List (String × String)) (hs : Headers) :
    ofEntries entries hs = match entries.findSome? fault? with
      | some e => .error e
      | none => .ok (entries.foldl (fun hs e => set hs e.1 e.2) hs) := by
  induction entries generalizing hs with
  | nil => rfl
  | cons e rest ih =>
    obtain ⟨name, value⟩ := e
    rw [ofEntries, List.findSome?_cons, fault?]
    cases isName name <;> cases isValue value <;> simp [ih]

theorem configured_of_fault {t : Table String} {e : Error}
    (h : t.entries.findSome? fault? = some e) : configured t = .error e := by
  rw [configured, ofEntries_eq, h]

theorem configured_of_sound {t : Table String} (h : t.entries.findSome? fault? = none) :
    configured t = .ok (ofList t.entries) := by
  rw [configured, ofEntries_eq, h]
  rfl

/-! ### Values -/

def valueFor (name : String) (e : String × String) : Option String :=
  if lowerName e.1 = name then some e.2 else none

theorem valueFor_eq_some {name value : String} {e : String × String} :
    valueFor name e = some value ↔ lowerName e.1 = name ∧ e.2 = value := by
  simp [valueFor]

theorem get?_foldl_set (entries : List (String × String)) (hs : Headers) (name : String) :
    (entries.foldl (fun hs e => set hs e.1 e.2) hs).get? name =
      (entries.reverse.findSome? (valueFor name)).or (hs.get? name) := by
  induction entries generalizing hs with
  | nil => rfl
  | cons e rest ih =>
    rw [List.foldl_cons, ih, List.reverse_cons, List.findSome?_append, Option.or_assoc, set,
      Table.get?_insert, List.findSome?_singleton, valueFor]
    by_cases h : lowerName e.1 = name
    · simp [h]
    · simp [h, Ne.symm h]

/-- The last spelling of a name counts. -/
theorem get?_ofList (entries : List (String × String)) (name : String) :
    (ofList entries).get? name = entries.reverse.findSome? (valueFor name) := by
  rw [ofList, get?_foldl_set, Table.get?_empty, Option.or_none]

/-- The headers have a value for every name in a table, one that the table has for it. -/
structure ChosenFrom (t : Table String) (hs : Headers) : Prop where
  named : ∀ e ∈ t.entries, hs.get? (lowerName e.1) ≠ none
  held : ∀ name value, hs.get? name = some value →
    ∃ e ∈ t.entries, lowerName e.1 = name ∧ e.2 = value

theorem chosenFrom_ofList {t u : Table String} (h : t.Reordered u) :
    ChosenFrom t (ofList u.entries) where
  named e he missing := by
    rw [get?_ofList, List.findSome?_eq_none_iff] at missing
    have none_there := missing e (List.mem_reverse.2 (h.mem_iff.2 he))
    rw [valueFor_eq_some.2 ⟨rfl, rfl⟩] at none_there
    cases none_there
  held name value found := by
    rw [get?_ofList] at found
    obtain ⟨e, he, given⟩ := List.exists_of_findSome?_eq_some found
    exact ⟨e, h.mem_iff.1 (List.mem_reverse.1 he), valueFor_eq_some.1 given⟩

end Pagewise.Headers
