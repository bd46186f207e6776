import Pagewise.Table

/-!
Tables in other orders. A search comes to the first hit in the order of the table, or to the last one if
it goes backwards. In every order that is the same if all the hits are the same, and otherwise any of
them comes first in some order, and last in another.
-/
namespace Pagewise

variable {α β : Type}

namespace Table

/-- The same entries, in some order. -/
def Reordered (t u : Table α) : Prop := t.entries.Perm u.entries

variable {t u : Table α} {f : String × α → Option β}

theorem Reordered.refl (t : Table α) : t.Reordered t := List.Perm.refl _

theorem Reordered.mem_iff (h : t.Reordered u) {a : String × α} : a ∈ u.entries ↔ a ∈ t.entries :=
  (List.Perm.mem_iff h).symm

def inOrder (t : Table α) (entries : List (String × α)) (h : t.entries.Perm entries) : Table α :=
  ⟨entries, (h.map Prod.fst).nodup_iff.1 t.nodup⟩

theorem eq_of_fst_eq {a b : String × α} (ha : a ∈ t.entries) (hb : b ∈ t.entries)
    (same : a.1 = b.1) : a = b := by
  have found : t.get? a.1 = some a.2 := get?_eq_some.2 ha
  have found' : t.get? a.1 = some b.2 := by
    rw [same]
    exact get?_eq_some.2 hb
  rw [found, Option.some.injEq] at found'
  exact Prod.ext same found'

/-! ### Hits -/

/-- All hits in the table are the same. -/
def Settled (f : String × α → Option β) (t : Table α) : Prop :=
  ∀ a ∈ t.entries, ∀ b ∈ t.entries, ∀ x y, f a = some x → f b = some y → x = y

/-- Two entries of the table are hits. -/
def Rivals (f : String × α → Option β) (t : Table α) : Prop :=
  ∃ a ∈ t.entries, ∃ b ∈ t.entries, a ≠ b ∧ f a ≠ none ∧ f b ≠ none

theorem settled_of_not_rivals (single : ¬ t.Rivals f) : t.Settled f := by
  intro a ha b hb x y hx hy
  by_cases same : a = b
  · rw [same, hy] at hx
    exact (Option.some.inj hx).symm
  · exact absurd ⟨a, ha, b, hb, same, by simp [hx], by simp [hy]⟩ single

theorem Rivals.exists_ne (h : t.Rivals f)
    (telling : ∀ a b x, f a = some x → f b = some x → a.1 = b.1) :
    ∃ a ∈ t.entries, ∃ b ∈ t.entries, ∃ x y, f a = some x ∧ f b = some y ∧ x ≠ y := by
  obtain ⟨a, ha, b, hb, differ, hit_a, hit_b⟩ := h
  obtain ⟨x, hx⟩ := Option.ne_none_iff_exists'.1 hit_a
  obtain ⟨y, hy⟩ := Option.ne_none_iff_exists'.1 hit_b
  refine ⟨a, ha, b, hb, x, y, hx, hy, ?_⟩
  rintro rfl
  exact differ (eq_of_fst_eq ha hb (telling a b x hx hy))

theorem Reordered.findSome?_eq_none_iff (h : t.Reordered u) :
    u.entries.findSome? f = none ↔ t.entries.findSome? f = none := by
  simp only [List.findSome?_eq_none_iff, h.mem_iff]

/-- A list with the entries of a table finds what the table finds, if there is only one hit. -/
theorem Settled.findSome?_eq (settled : t.Settled f) {entries : List (String × α)}
    (same : ∀ a, a ∈ entries ↔ a ∈ t.entries) : entries.findSome? f = t.entries.findSome? f := by
  cases found : t.entries.findSome? f with
  | none =>
    rw [List.findSome?_eq_none_iff] at found ⊢
    exact fun a ha => found a ((same a).1 ha)
  | some x =>
    obtain ⟨a, ha, hx⟩ := List.exists_of_findSome?_eq_some found
    cases found' : entries.findSome? f with
    | none =>
      have missed := List.findSome?_eq_none_iff.1 found' a ((same a).2 ha)
      rw [hx] at missed
      cases missed
    | some y =>
      obtain ⟨b, hb, hy⟩ := List.exists_of_findSome?_eq_some found'
      rw [settled a ha b ((same b).1 hb) x y hx hy]

theorem Reordered.first_eq (h : t.Reordered u) (settled : t.Settled f) :
    u.entries.findSome? f = t.entries.findSome? f :=
  settled.findSome?_eq fun _ => h.mem_iff

theorem Reordered.last_eq (h : t.Reordered u) (settled : t.Settled f) :
    u.entries.reverse.findSome? f = t.entries.reverse.findSome? f := by
  rw [settled.findSome?_eq fun a => List.mem_reverse.trans h.mem_iff,
    settled.findSome?_eq fun a => List.mem_reverse]

theorem exists_first {a : String × α} {x : β} (ha : a ∈ t.entries) (hit : f a = some x) :
    ∃ u, t.Reordered u ∧ u.entries.findSome? f = some x := by
  obtain ⟨before, after, split⟩ := List.append_of_mem ha
  have order : t.entries.Perm (a :: (before ++ after)) := split ▸ List.perm_middle
  exact ⟨t.inOrder _ order, order, by simp [inOrder, hit]⟩

theorem exists_last {a : String × α} {x : β} (ha : a ∈ t.entries) (hit : f a = some x) :
    ∃ u, t.Reordered u ∧ u.entries.reverse.findSome? f = some x := by
  obtain ⟨v, order, first⟩ := exists_first ha hit
  have backwards : t.entries.Perm v.entries.reverse :=
    List.Perm.trans order (List.reverse_perm _).symm
  refine ⟨t.inOrder _ backwards, backwards, ?_⟩
  rw [inOrder, List.reverse_reverse]
  exact first

end Table

end Pagewise
