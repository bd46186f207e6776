/-!
Sorting by name. `sortOn` keeps every element and puts their keys in order; `distinct` keeps one copy
of each name.
-/
namespace Pagewise.Ordered

variable {α : Type}

def insertOn (key : α → String) (a : α) : List α → List α
  | [] => [a]
  | b :: bs => if key b < key a then b :: insertOn key a bs else a :: b :: bs

def sortOn (key : α → String) : List α → List α
  | [] => []
  | a :: as => insertOn key a (sortOn key as)

def insertName (a : String) : List String → List String
  | [] => [a]
  | b :: bs => if a = b then b :: bs else if b < a then b :: insertName a bs else a :: b :: bs

def distinct : List String → List String
  | [] => []
  | a :: as => insertName a (distinct as)

def sort (names : List String) : List String := sortOn id names

theorem mem_insertOn {key : α → String} {a b : α} {bs : List α} :
    b ∈ insertOn key a bs ↔ b = a ∨ b ∈ bs := by
  induction bs with
  | nil => simp [insertOn]
  | cons c bs ih =>
    rw [insertOn]
    split
    · simp only [List.mem_cons, ih]; grind
    · simp

@[simp] theorem mem_sortOn {key : α → String} {b : α} {as : List α} :
    b ∈ sortOn key as ↔ b ∈ as := by
  induction as with
  | nil => simp [sortOn]
  | cons a as ih => rw [sortOn, mem_insertOn, ih, List.mem_cons]

theorem mem_insertName {a b : String} {bs : List String} :
    b ∈ insertName a bs ↔ b = a ∨ b ∈ bs := by
  induction bs with
  | nil => simp [insertName]
  | cons c bs ih =>
    rw [insertName]
    split
    · simp_all
    · split
      · simp only [List.mem_cons, ih]; grind
      · simp

@[simp] theorem mem_distinct {b : String} {as : List String} : b ∈ distinct as ↔ b ∈ as := by
  induction as with
  | nil => simp [distinct]
  | cons a as ih => rw [distinct, mem_insertName, ih, List.mem_cons]

end Pagewise.Ordered
