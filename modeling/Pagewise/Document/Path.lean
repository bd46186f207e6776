import Pagewise.Document.Basic
import Pagewise.Error
import Pagewise.Text.Blank

/-!
Member paths: dotted names such as `Result.Pagination.NextToken` that locate a member of a document.
A path is read and taken only through objects; a write puts objects in the place of anything else on
its way, and a removal leaves everything else alone.
-/
namespace Pagewise

namespace MemberName

def isStart (c : Char) : Bool := c.isAlpha || c == '_'

def isRest (c : Char) : Bool := c.isAlphanum || c == '_'

def isValid : List Char → Bool
  | [] => false
  | c :: cs => isStart c && cs.all isRest

end MemberName

/-- A member path: the names on the way, at least one. -/
structure Path where
  segments : List String
  nonempty : segments ≠ []
  valid : ∀ s ∈ segments, MemberName.isValid s.toList = true

namespace Path

instance : BEq Path := ⟨fun p q => p.segments == q.segments⟩

def isTopLevel (p : Path) : Bool := p.segments.length == 1

def dotted (p : Path) : String := ".".intercalate p.segments

/-! ### Parsing -/

def splitDots : List Char → List (List Char)
  | [] => [[]]
  | '.' :: rest => [] :: splitDots rest
  | c :: rest =>
    match splitDots rest with
    | [] => [[c]]
    | part :: parts => (c :: part) :: parts

theorem splitDots_ne_nil : ∀ cs : List Char, splitDots cs ≠ []
  | [] => by simp [splitDots]
  | c :: rest => by
    unfold splitDots
    split
    · simp_all
    · simp
    · split <;> simp

/-- Blanks at the ends and one leading `$.` do not count. -/
def strip (cs : List Char) : List Char :=
  match Text.trim cs with
  | '$' :: '.' :: rest => rest
  | cs => cs

def segmentError? (segment : List Char) : Option String :=
  if segment.isEmpty then some "empty segment"
  else if MemberName.isValid segment then none
  else some ("'" ++ String.ofList segment ++ "' is not a valid member name")

theorem isValid_of_segmentError?_eq_none {segment : List Char} (h : segmentError? segment = none) :
    MemberName.isValid segment = true := by
  unfold segmentError? at h
  split at h
  · simp at h
  · split at h
    · assumption
    · simp at h

/-- Read a path. An error carries the text as it was given and names the first bad segment. -/
def parse (text : String) : Except Error Path :=
  let stripped := strip text.toList
  if stripped.isEmpty then .error (.invalidPath text "path is empty")
  else
    match h : (splitDots stripped).findSome? segmentError? with
    | some problem => .error (.invalidPath text problem)
    | none =>
      .ok ⟨(splitDots stripped).map String.ofList, by simpa using splitDots_ne_nil stripped, by
        intro s hs
        obtain ⟨part, hpart, rfl⟩ := List.mem_map.1 hs
        rw [String.toList_ofList]
        exact isValid_of_segmentError?_eq_none (List.findSome?_eq_none_iff.1 h part hpart)⟩

def member (text : String) : Except Error Path := do
  let p ← parse text
  if p.isTopLevel then return p
  else .error (.invalidPath text "expected a single member name")

def toDocument (p : Path) : Document := .string p.dotted

def ofDocument : Document → Except (Option Error) Path
  | .string text => (parse text).mapError some
  | _ => .error none

/-! ### Access -/

/-- Follow names from a document, through objects only. -/
def readAt : List String → Document → Option Document
  | [], d => some d
  | s :: rest, .object ms => (ms.get? s).bind (readAt rest)
  | _ :: _, _ => none

def nonNull (d : Document) : Option Document := if d.isNull then none else some d

/-- The value at a path, unless it is null. -/
def read (p : Path) (d : Document) : Option Document := (readAt p.segments d).bind nonNull

def takeAt : List String → Document → Option Document × Document
  | [], d => (none, d)
  | [leaf], .object ms => (ms.get? leaf, .object (ms.erase leaf))
  | s :: next :: rest, .object ms =>
    match ms.get? s with
    | none => (none, .object ms)
    | some child =>
      let (taken, child) := takeAt (next :: rest) child
      (taken, .object (ms.set s child))
  | _ :: _, d => (none, d)

/-- Move the value at a path out of a document. A null is removed, and counts as absent. -/
def take (p : Path) (d : Document) : Option Document × Document :=
  let (taken, rest) := takeAt p.segments d
  (taken.bind nonNull, rest)

def membersOf : Document → Members none
  | .object ms => ms
  | _ => .nil

def insertAt (value : Document) : List String → Document → Document
  | [], _ => value
  | s :: rest, d =>
    let ms := membersOf d
    .object (ms.set s (insertAt value rest ((ms.get? s).getD .null)))

def removeAt : List String → Document → Document
  | [], d => d
  | [leaf], .object ms => .object (ms.erase leaf)
  | s :: next :: rest, .object ms =>
    match ms.get? s with
    | none => .object ms
    | some child => .object (ms.set s (removeAt (next :: rest) child))
  | _ :: _, d => d

/-- Set the value at a path, or remove it. -/
def write (p : Path) (value : Option Document) (d : Document) : Document :=
  match value with
  | some v => insertAt v p.segments d
  | none => removeAt p.segments d

end Path

end Pagewise
