import Pagewise.Text.Hexadecimal

/-!
Tables over code points. The written form of a table is a list of stretches, `first-last:value` or
`first:value`, with code points in hexadecimal and blanks or line ends between stretches. A table
that only says which code points belong to it leaves the values out.
-/
namespace Pagewise.Text

def words (text : String) : List String := (text.splitOn "\n").flatMap fun line => line.splitOn " "

/-- Code points from `first` to `last`, with what they have in common. -/
structure Stretch (α : Type) where
  first : Nat
  last : Nat
  value : α
  deriving Repr

namespace Stretch

variable {α : Type}

def covers (s : Stretch α) (n : Nat) : Bool := s.first ≤ n && n ≤ s.last

def read? (value : List Char → Option α) (cs : List Char) : Option (Stretch α) := do
  let codes := cs.takeWhile (· != ':')
  let first ← hexNat? (codes.takeWhile (· != '-'))
  let last := (hexNat? ((codes.dropWhile (· != '-')).drop 1)).getD first
  return ⟨first, last, ← value ((cs.dropWhile (· != ':')).drop 1)⟩

end Stretch

abbrev CodeTable (α : Type) := List (Stretch α)

abbrev CodeSet := CodeTable Unit

namespace CodeTable

variable {α : Type}

def stretch? (t : CodeTable α) (c : Char) : Option (Stretch α) := t.find? fun s => s.covers c.toNat

def value? (t : CodeTable α) (c : Char) : Option α := (t.stretch? c).map Stretch.value

def contains (t : CodeTable α) (c : Char) : Bool := (t.stretch? c).isSome

def read (value : List Char → Option α) (text : String) : CodeTable α :=
  (words text).filterMap fun s => Stretch.read? value s.toList

def readSet (text : String) : CodeSet := read (fun _ => some ()) text

end CodeTable

end Pagewise.Text
