import Mathlib.Data.List.Sort
import Pagewise.Document.Basic
import Pagewise.Ordered

/-!
Sorted lists. Different keys, and names kept once each, stand in strictly increasing order, and what is
in such a list settles it.
-/
namespace Pagewise.Ordered

variable {α : Type} {key : α → String}

theorem pairwise_insertOn {a : α} {bs : List α} (h : bs.Pairwise fun b c => key b < key c)
    (new : ∀ b ∈ bs, key a ≠ key b) :
    (insertOn key a bs).Pairwise fun b c => key b < key c := by
  induction bs with
  | nil => simp [insertOn]
  | cons b bs ih =>
    obtain ⟨first, rest⟩ := List.pairwise_cons.1 h
    rw [insertOn]
    split
    · next before =>
      refine List.pairwise_cons.2 ⟨?_, ih rest fun c hc => new c (List.mem_cons_of_mem _ hc)⟩
      intro c hc
      rcases mem_insertOn.1 hc with rfl | hc
      · exact before
      · exact first c hc
    · next not_before =>
      have less : key a < key b :=
        Members.lt_of_not_lt not_before (new b List.mem_cons_self).symm
      refine List.pairwise_cons.2 ⟨?_, h⟩
      intro c hc
      rcases List.mem_cons.1 hc with rfl | hc
      · exact less
      · exact String.lt_trans less (first c hc)

theorem pairwise_sortOn {as : List α} (h : as.Pairwise fun a b => key a ≠ key b) :
    (sortOn key as).Pairwise fun a b => key a < key b := by
  induction as with
  | nil => simp [sortOn]
  | cons a as ih =>
    obtain ⟨first, rest⟩ := List.pairwise_cons.1 h
    exact pairwise_insertOn (ih rest) fun b hb => first b (mem_sortOn.1 hb)

/-- What is in a list in strictly increasing order settles the list. -/
theorem eq_of_pairwise {as bs : List α} (ha : as.Pairwise fun a b => key a < key b)
    (hb : bs.Pairwise fun a b => key a < key b) (same : ∀ a, a ∈ as ↔ a ∈ bs) : as = bs := by
  have antisymm : Std.Antisymm fun a b : α => key a < key b :=
    ⟨fun _ _ less more => absurd more (String.lt_asymm less)⟩
  have irrefl : Std.Irrefl fun a b : α => key a < key b := ⟨fun _ => String.lt_irrefl _⟩
  exact ha.eq_of_mem_iff hb same

/-! ### Names -/

theorem insertName_of_mem {a : String} {bs : List String} (h : bs.Pairwise (· < ·)) (held : a ∈ bs) :
    insertName a bs = bs := by
  induction bs with
  | nil => cases held
  | cons b bs ih =>
    obtain ⟨first, rest⟩ := List.pairwise_cons.1 h
    rw [insertName]
    split
    · rfl
    · next other =>
      have later : a ∈ bs := (List.mem_cons.1 held).resolve_left other
      rw [if_pos (first a later), ih rest later]

theorem insertName_of_not_mem {a : String} {bs : List String} (new : a ∉ bs) :
    insertName a bs = insertOn id a bs := by
  induction bs with
  | nil => rfl
  | cons b bs ih =>
    obtain ⟨other, later⟩ : a ≠ b ∧ a ∉ bs := by simpa using new
    rw [insertName, insertOn, if_neg other, ih later]
    rfl

theorem pairwise_distinct (as : List String) : (distinct as).Pairwise (· < ·) := by
  induction as with
  | nil => simp [distinct]
  | cons a as ih =>
    rw [distinct]
    by_cases held : a ∈ distinct as
    · rw [insertName_of_mem ih held]
      exact ih
    · rw [insertName_of_not_mem held]
      exact pairwise_insertOn ih fun b hb same => held (same ▸ hb)

end Pagewise.Ordered
