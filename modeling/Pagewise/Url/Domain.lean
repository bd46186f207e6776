import Pagewise.Text.Direction
import Pagewise.Text.Joining
import Pagewise.Url.Error
import Pagewise.Url.Folding
import Pagewise.Url.Percent
import Pagewise.Url.Punycode

/-!
Domain names. A name is brought to one spelling and cut into labels at full stops; labels beyond
ASCII are written in Punycode behind `xn--`.
-/
namespace Pagewise.Domain

def isForbidden (c : Char) : Bool := c ≤ ' ' || c.toNat == 0x7F || "%#/:<>?@[\\]^|".contains c

def labels : List Char → List (List Char)
  | [] => [[]]
  | c :: rest =>
    match labels rest with
    | [] => [[c]]
    | l :: ls => if c == '.' then [] :: l :: ls else (c :: l) :: ls

def aceMark : List Char := ['x', 'n', '-', '-']

def plainLimit : Nat := 1000

def codedLimit : Nat := 2000

def isWellFormed (cs : List Char) : Bool :=
  !cs.head?.any Text.Combining.isMark && Text.Joining.allFit [] cs

structure Label where
  written : List Char
  text : List Char

namespace Label

/-- A label in Punycode, which has to stand for a label beyond ASCII in its one spelling. -/
def ofCoded? (cs : List Char) : Option Label := do
  let code := cs.drop aceMark.length
  let text ← if code.length ≤ codedLimit then Punycode.decode? code else none
  if !text.all Punycode.isAscii && Folding.fold? text == some text && isWellFormed text then
    some ⟨cs, text⟩
  else none

def of? (cs : List Char) : Option Label :=
  let coded := aceMark.isPrefixOf cs
  if cs.all Punycode.isAscii then if coded then ofCoded? cs else some ⟨cs, cs⟩
  else if !coded && cs.length ≤ plainLimit && isWellFormed cs then
    some ⟨aceMark ++ Punycode.encode cs, cs⟩
  else none

def directions (l : Label) : List Text.Direction := l.text.map Text.Direction.ofChar

end Label

/-- Where a label has words written to the left, every label has to keep its order. -/
def keepsOrder (ls : List Label) : Bool :=
  !(ls.any fun l => l.directions.any Text.Direction.turns) ||
    ls.all fun l => Text.Direction.isStable l.directions

def join : List (List Char) → List Char
  | [] => []
  | [l] => l
  | l :: ls => l ++ '.' :: join ls

def labels? (name : List Char) : Option (List Label) :=
  if name.any isForbidden then none
  else ((labels name).mapM Label.of?).filter keepsOrder

/-- The one spelling of a name written with percent-encoding. -/
def parse (cs : List Char) : Except UrlError (List Char) :=
  match (Text.Utf8.decode? (Percent.decode cs)).bind fun s =>
      (Folding.fold? s.toList).bind labels? with
  | some ls => .ok (join (ls.map Label.written))
  | none => .error .invalidDomain

end Pagewise.Domain
