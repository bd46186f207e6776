import Pagewise.Text.Combining
import Pagewise.Text.Normal.Pairs

/-!
The composed normal form of a text. Texts that differ only in whether marks are parts of a character
or follow it, and in the order of marks that do not touch each other, have the same one: characters
are taken apart, marks put in the order of their classes, and what can be one character is made one.
-/
namespace Pagewise.Text.Normal

/-! ### Syllables of Hangul -/

def syllableBase : Nat := 0xAC00

def leadBase : Nat := 0x1100

def vowelBase : Nat := 0x1161

/-- One place before the first trailing consonant; a syllable may have none. -/
def trailBase : Nat := 0x11A7

def leads : Nat := 19

def vowels : Nat := 21

def trails : Nat := 28

def syllables : Nat := leads * vowels * trails

def syllableParts? (c : Char) : Option (Char × Char) :=
  if syllableBase ≤ c.toNat && c.toNat < syllableBase + syllables then
    let i := c.toNat - syllableBase
    if i % trails = 0 then
      some (Char.ofNat (leadBase + i / (vowels * trails)),
        Char.ofNat (vowelBase + i / trails % vowels))
    else some (Char.ofNat (c.toNat - i % trails), Char.ofNat (trailBase + i % trails))
  else none

def syllable? (a b : Char) : Option Char :=
  if leadBase ≤ a.toNat && a.toNat < leadBase + leads && vowelBase ≤ b.toNat &&
      b.toNat < vowelBase + vowels then
    some (Char.ofNat (syllableBase +
      ((a.toNat - leadBase) * vowels + (b.toNat - vowelBase)) * trails))
  else if syllableBase ≤ a.toNat && a.toNat < syllableBase + syllables &&
      (a.toNat - syllableBase) % trails = 0 && trailBase < b.toNat &&
      b.toNat < trailBase + trails then
    some (Char.ofNat (a.toNat + (b.toNat - trailBase)))
  else none

/-! ### Taking apart -/

def parts? (c : Char) : Option (Char × Char) :=
  if c.toNat < 0xC0 then none
  else match syllableParts? c with
    | some parts => some parts
    | none => (pairs.find? fun p => p.whole == c).map fun p => (p.first, p.second)

def depth : Nat := 3

def takeApart : Nat → Char → List Char
  | 0, c => [c]
  | d + 1, c =>
    match parts? c with
    | none => [c]
    | some (a, b) => takeApart d a ++ [b]

/-! ### Order of marks -/

def place (c : Char) : List Char → List Char
  | [] => [c]
  | d :: rest =>
    if 0 < Combining.classOf d && Combining.classOf d < Combining.classOf c then d :: place c rest
    else c :: d :: rest

def reorder (cs : List Char) : List Char := cs.foldr place []

/-! ### Putting together -/

def whole? (a b : Char) : Option Char :=
  match syllable? a b with
  | some c => some c
  | none => (pairs.find? fun p => p.first == a && p.second == b).map Pair.whole

/-- Put a character together with those after it that it reaches. `passed` are the marks that stay
between, the latest first: a mark reaches over marks of lower classes only. -/
def composeFrom (c : Char) (passed : List Char) : List Char → List Char
  | [] => c :: passed.reverse
  | d :: rest =>
    let reached := passed.head?.all fun p => Combining.classOf p < Combining.classOf d
    match if reached then whole? c d else none with
    | some whole => composeFrom whole passed rest
    | none =>
      if Combining.classOf d = 0 then c :: (passed.reverse ++ composeFrom d [] rest)
      else composeFrom c (d :: passed) rest

def compose : List Char → List Char
  | [] => []
  | c :: rest => if Combining.classOf c = 0 then composeFrom c [] rest else c :: compose rest

def normalize (cs : List Char) : List Char := compose (reorder (cs.flatMap (takeApart depth)))

end Pagewise.Text.Normal
