/-!
Reading through a YAML text: what is left of it, and where that stands. Line ends have one spelling
before reading starts, apart from the two separators that stay as they are.
-/
namespace Pagewise.Yaml

def isBreak (c : Char) : Bool := c == '\n' || c.toNat == 0x2028 || c.toNat == 0x2029

def isBlank (c : Char) : Bool := c == ' ' || c == '\t'

def endsWord : Option Char → Bool
  | none => true
  | some c => isBlank c || isBreak c

def isWordChar (c : Char) : Bool := c.isAlphanum || c == '_' || c == '-'

def isAllowed (c : Char) : Bool :=
  let n := c.toNat
  n == 9 || n == 10 || n == 13 || (0x20 ≤ n && n ≤ 0x7E) || n == 0x85 ||
    (0xA0 ≤ n && n ≤ 0xFFFD) || 0x10000 ≤ n

/-- Carriage returns, alone or before a line feed, and next-line characters as line feeds. -/
def unifyBreaks : List Char → List Char
  | [] => []
  | '\r' :: '\n' :: rest => '\n' :: unifyBreaks rest
  | c :: rest => (if c == '\r' || c.toNat == 0x85 then '\n' else c) :: unifyBreaks rest

structure Source where
  rest : List Char
  line : Nat
  column : Nat
  index : Nat

namespace Source

def ofText (text : String) : Option Source :=
  if text.toList.all isAllowed then some ⟨unifyBreaks text.toList, 0, 0, 0⟩ else none

def ahead (s : Source) (n : Nat) : Option Char := s.rest[n]?

def step (s : Source) : Source :=
  match s.rest with
  | [] => s
  | c :: rest =>
    if isBreak c then ⟨rest, s.line + 1, 0, s.index + c.utf8Size⟩
    else ⟨rest, s.line, s.column + 1, s.index + c.utf8Size⟩

def skip (s : Source) : Nat → Source
  | 0 => s
  | n + 1 => s.step.skip n

def upTo (s : Source) (rest : List Char) : Source := s.skip (s.rest.length - rest.length)

def atMark (s : Source) (c : Char) : Bool :=
  s.column == 0 && s.rest.take 3 == [c, c, c] && endsWord (s.ahead 3)

def atDocumentMark (s : Source) : Bool := s.atMark '-' || s.atMark '.'

end Source

end Pagewise.Yaml
