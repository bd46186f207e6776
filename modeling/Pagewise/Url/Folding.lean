import Pagewise.Text.Normal
import Pagewise.Url.Folding.Table

/-!
The one spelling of the characters in a name: letters in lower case, forms of a character as that
character, characters and marks put together.
-/
namespace Pagewise.Folding

/-- The characters that a character becomes, if it does not stay. -/
def image? (c : Char) : Option (List Char) :=
  (images.stretch? c).bind fun s =>
    let distance := c.toNat - s.first
    match s.value with
    | .text cs => some cs
    | .shifted first => some [Char.ofNat (first + distance)]
    | .alternating first =>
      if distance % 2 = 0 then some [Char.ofNat (first + distance)] else none

def ofChar? (c : Char) : Option (List Char) :=
  if c.toNat < 0x80 then some [c.toLower]
  else if refused.contains c then none
  else if ignored.contains c then some []
  else some ((image? c).getD [c])

def fold? (cs : List Char) : Option (List Char) :=
  (cs.mapM ofChar?).map fun parts => Text.Normal.normalize parts.flatten

end Pagewise.Folding
