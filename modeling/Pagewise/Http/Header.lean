import Pagewise.Error
import Pagewise.Table

/-!
Header fields. Names are compared without regard to case and stored in lower case; setting a name
again replaces its value.
-/
namespace Pagewise

/-- Values by lower-case name. -/
abbrev Headers := Table String

namespace Headers

def lowerName (name : String) : String := String.ofList (name.toList.map Char.toLower)

def set (hs : Headers) (name value : String) : Headers := hs.insert (lowerName name) value

def ofList (entries : List (String × String)) : Headers :=
  entries.foldl (fun hs e => set hs e.1 e.2) .empty

/-- The first set of fields wins where both have a name. -/
def orElse (hs defaults : Headers) : Headers :=
  defaults.entries.foldl (fun hs e => if (hs.get? e.1).isSome then hs else hs.insert e.1 e.2) hs

theorem get?_orElse (hs defaults : Headers) (name : String) :
    (orElse hs defaults).get? name = (hs.get? name).or (defaults.get? name) := by
  change (defaults.entries.foldl _ hs).get? name =
    (hs.get? name).or (defaults.entries.lookup name)
  induction defaults.entries generalizing hs with
  | nil => simp
  | cons e entries ih =>
    obtain ⟨key, value⟩ := e
    rw [List.foldl_cons, ih, Table.lookup_cons]
    cases held : hs.get? key with
    | some old => by_cases h : name = key <;> simp [h, held]
    | none => by_cases h : name = key <;> simp [h, held, Table.get?_insert]

def isNameChar (c : Char) : Bool := c.isAlphanum || "!#$%&'*+-.^_`|~".contains c

def isName (s : String) : Bool := !s.isEmpty && s.length < UInt16.size && s.toList.all isNameChar

def isValue (s : String) : Bool := s.toList.all fun c => c == '\t' || (' ' ≤ c && c.toNat != 127)

def badName : String := "invalid HTTP header name"

def badValue : String := "failed to parse header value"

def ofEntries : List (String × String) → Headers → Except Error Headers
  | [], hs => .ok hs
  | (name, value) :: rest, hs =>
    if !isName name then .error (.invalidValue ("http.headers." ++ name) badName)
    else if !isValue value then .error (.invalidValue ("http.headers." ++ name) badValue)
    else ofEntries rest (set hs name value)

def configured (t : Table String) : Except Error Headers := ofEntries t.entries .empty

end Headers

end Pagewise
