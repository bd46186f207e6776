import Mathlib.Data.List.TakeWhile
import Pagewise.Text.Blank

/-!
Trimming. A text is what is left of it with blanks before and after; blanks around a text do not
change what is left, and nothing is taken off where there are no blanks.
-/
namespace Pagewise.Text

def Blank (cs : List Char) : Prop := ∀ c ∈ cs, isBlank c = true

def Solid (cs : List Char) : Prop := ∀ c ∈ cs, isBlank c = false

theorem blank_nil : Blank [] := fun _ among => nomatch among

theorem Blank.reverse {cs : List Char} (h : Blank cs) : Blank cs.reverse :=
  fun c among => h c (List.mem_reverse.1 among)

theorem Solid.reverse {cs : List Char} (h : Solid cs) : Solid cs.reverse :=
  fun c among => h c (List.mem_reverse.1 among)

theorem trimRight_eq (cs : List Char) : trimRight cs = (trimLeft cs.reverse).reverse := rfl

/-! ### Either end -/

theorem trimLeft_append {before : List Char} (blank : Blank before) (cs : List Char) :
    trimLeft (before ++ cs) = trimLeft cs :=
  List.dropWhile_append_of_pos blank

theorem trimRight_append (cs : List Char) {after : List Char} (blank : Blank after) :
    trimRight (cs ++ after) = trimRight cs := by
  rw [trimRight_eq, List.reverse_append, trimLeft_append blank.reverse, trimRight_eq]

theorem trimLeft_of_blank {cs : List Char} (blank : Blank cs) : trimLeft cs = [] := by
  have nothing := trimLeft_append blank []
  rwa [List.append_nil] at nothing

theorem trimLeft_cons {c : Char} (solid : isBlank c = false) (cs : List Char) :
    trimLeft (c :: cs) = c :: cs :=
  List.dropWhile_cons_of_neg (by simp [solid])

theorem trimLeft_of_solid {cs : List Char} (solid : Solid cs) : trimLeft cs = cs := by
  cases cs with
  | nil => rfl
  | cons c cs => exact trimLeft_cons (solid c List.mem_cons_self) cs

theorem trimRight_of_solid {cs : List Char} (solid : Solid cs) : trimRight cs = cs := by
  rw [trimRight_eq, trimLeft_of_solid solid.reverse, List.reverse_reverse]

theorem trimRight_cons {c : Char} (solid : isBlank c = false) (cs : List Char) :
    trimRight (c :: cs) = c :: trimRight cs := by
  have alone : [c].dropWhile isBlank = [c] := trimLeft_cons solid []
  rw [trimRight, List.reverse_cons, List.dropWhile_append, alone, trimRight]
  split
  · next empty => rw [List.isEmpty_iff.1 empty]; rfl
  · rw [List.reverse_append]; rfl

theorem exists_trimLeft (cs : List Char) : ∃ before, Blank before ∧ cs = before ++ trimLeft cs :=
  ⟨cs.takeWhile isBlank, fun _ => List.mem_takeWhile_imp, List.takeWhile_append_dropWhile.symm⟩

theorem exists_trimRight (cs : List Char) : ∃ after, Blank after ∧ cs = trimRight cs ++ after := by
  obtain ⟨before, blank, split⟩ := exists_trimLeft cs.reverse
  refine ⟨before.reverse, blank.reverse, ?_⟩
  rw [trimRight_eq, ← List.reverse_append, ← split, List.reverse_reverse]

/-! ### Both ends -/

theorem exists_trim (cs : List Char) :
    ∃ before after, Blank before ∧ Blank after ∧ cs = before ++ trim cs ++ after := by
  obtain ⟨before, blank_before, split⟩ := exists_trimLeft cs
  obtain ⟨after, blank_after, left⟩ := exists_trimRight (trimLeft cs)
  refine ⟨before, after, blank_before, blank_after, ?_⟩
  rw [trim, List.append_assoc, ← left, ← split]

theorem trim_append {before after : List Char} (blank_before : Blank before)
    (blank_after : Blank after) (cs : List Char) : trim (before ++ cs ++ after) = trim cs := by
  have first : trimLeft (before ++ cs ++ after) = trimLeft (cs ++ after) := by
    rw [List.append_assoc, trimLeft_append blank_before]
  rw [trim, first, trimLeft, List.dropWhile_append]
  split
  · next empty =>
    -- All of the text is blank, and what comes after it goes the same way.
    have nothing : trimLeft cs = [] := List.isEmpty_iff.1 empty
    have nothing_after : after.dropWhile isBlank = [] := trimLeft_of_blank blank_after
    rw [nothing_after, trim, nothing]
  · exact trimRight_append _ blank_after

theorem trim_cons {c : Char} (solid : isBlank c = false) (cs : List Char) :
    trim (c :: cs) = c :: trimRight cs := by
  rw [trim, trimLeft_cons solid, trimRight_cons solid]

theorem trim_of_solid {cs : List Char} (solid : Solid cs) : trim cs = cs := by
  rw [trim, trimLeft_of_solid solid, trimRight_of_solid solid]

end Pagewise.Text
