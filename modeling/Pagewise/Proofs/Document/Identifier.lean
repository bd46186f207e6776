import Pagewise.Document.Path

/-!
The names in member paths, letter by letter. What counts as a name is an identifier: a letter of
the alphabet or an underscore, and then letters, digits and underscores. There is no blank, no dot
and no dollar sign among them.
-/
namespace Pagewise.MemberName

def Letter (c : Char) : Prop := ('A' ≤ c ∧ c ≤ 'Z') ∨ ('a' ≤ c ∧ c ≤ 'z') ∨ c = '_'

def Digit (c : Char) : Prop := '0' ≤ c ∧ c ≤ '9'

/-- A letter, and then letters and digits. -/
inductive Identifier : List Char → Prop where
  | mk {first : Char} {rest : List Char} (starts : Letter first)
    (goes_on : ∀ c ∈ rest, Letter c ∨ Digit c) : Identifier (first :: rest)

theorem isStart_iff (c : Char) : isStart c = true ↔ Letter c := by
  have upper : c.isUpper = true ↔ 'A' ≤ c ∧ c ≤ 'Z' := decide_eq_true_iff
  have lower : c.isLower = true ↔ 'a' ≤ c ∧ c ≤ 'z' :=
    Bool.and_eq_true_iff.trans (and_congr decide_eq_true_iff decide_eq_true_iff)
  have alpha : c.isAlpha = (c.isUpper || c.isLower) := rfl
  rw [isStart, alpha, Bool.or_eq_true, Bool.or_eq_true, upper, lower, beq_iff_eq, or_assoc, Letter]

theorem isRest_iff (c : Char) : isRest c = true ↔ Letter c ∨ Digit c := by
  have digit : c.isDigit = true ↔ Digit c := by
    simp only [Char.isDigit, Bool.and_eq_true, decide_eq_true_eq, Digit, Char.le_def]
  have split : isRest c = (isStart c || c.isDigit) := by
    rw [isRest, isStart, Char.isAlphanum, Bool.or_right_comm]
  rw [split, Bool.or_eq_true, isStart_iff, digit]

theorem isValid_iff (cs : List Char) : isValid cs = true ↔ Identifier cs := by
  cases cs with
  | nil =>
    simp only [isValid, Bool.false_eq_true, false_iff]
    intro h
    cases h
  | cons first rest =>
    simp only [isValid, Bool.and_eq_true, isStart_iff, List.all_eq_true, isRest_iff]
    constructor
    · intro h
      exact .mk h.1 h.2
    · intro h
      cases h with
      | mk starts goes_on => exact ⟨starts, goes_on⟩

theorem bounds {c : Char} (h : Letter c ∨ Digit c) : 48 ≤ c.toNat ∧ c.toNat ≤ 122 := by
  simp only [Letter, Digit, Char.le_def, UInt32.le_iff_toNat_le] at h
  change (((65 ≤ c.toNat ∧ c.toNat ≤ 90) ∨ (97 ≤ c.toNat ∧ c.toNat ≤ 122) ∨ c = '_') ∨
    (48 ≤ c.toNat ∧ c.toNat ≤ 57)) at h
  have underscore : '_'.toNat = 95 := rfl
  rcases h with (upper | lower | rfl) | digit <;> omega

theorem isBlank_of_bounds {c : Char} (h : 36 ≤ c.toNat ∧ c.toNat ≤ 122) :
    Text.isBlank c = false := by
  have value : c.val.toNat = c.toNat := rfl
  simp [Text.isBlank, UInt32.le_iff_toNat_le, ← UInt32.toNat_inj, value]
  omega

theorem Identifier.mem {cs : List Char} (h : Identifier cs) {c : Char} (among : c ∈ cs) :
    Letter c ∨ Digit c := by
  cases h with
  | mk starts goes_on =>
    cases List.mem_cons.1 among with
    | inl here => exact .inl (here ▸ starts)
    | inr later => exact goes_on c later

theorem Identifier.not_dot {cs : List Char} (h : Identifier cs) : '.' ∉ cs := by
  intro among
  have low : 48 ≤ '.'.toNat := (bounds (h.mem among)).1
  exact absurd low (by decide)

end Pagewise.MemberName
