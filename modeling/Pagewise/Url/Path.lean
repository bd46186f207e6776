import Pagewise.Url.Percent

/-!
Working out a path as it is read, segment by segment: `.` stays where it is and `..` goes back to the
slash before. In the path of a file a drive letter, a letter and a colon, is a root of its own.
-/
namespace Pagewise

/-- The part of a path that has been worked out, the latest character first. -/
structure PathText where
  done : List Char
  hasDrive : Bool
  deriving DecidableEq, Repr

namespace PathText

def ofList (cs : List Char) : PathText := ⟨cs.reverse, false⟩

def toList (p : PathText) : List Char := p.done.reverse

def isDot (cs : List Char) : Bool :=
  let s := cs.map Char.toLower
  s == ['.'] || s == ['%', '2', 'e']

def isDoubleDot (cs : List Char) : Bool :=
  let s := cs.map Char.toLower
  s == ['.', '.'] || s == ['.', '%', '2', 'e'] || s == ['%', '2', 'e', '.'] ||
    s == ['%', '2', 'e', '%', '2', 'e']

def isDrive : List Char → Bool
  | [a, b] => a.isAlpha && (b == ':' || b == '|')
  | _ => false

def isColonDrive (cs : List Char) : Bool := isDrive cs && cs.getLast? == some ':'

def beginsWithDrive (cs : List Char) : Bool :=
  isDrive (cs.take 2) && (cs.drop 2).head?.all (· == '\\')

def lastSegment (done : List Char) : List Char := (done.takeWhile (· != '/')).reverse

/-- Take off a slash at the end that has a segment before it, other than a drive letter. -/
def dropSlash (done : List Char) : List Char :=
  match done with
  | '/' :: rest =>
    if rest.contains '/' && !beginsWithDrive (lastSegment rest) then rest else done
  | done => done

/-- Go back behind the last slash; in the path of a file a drive letter behind it stays. -/
def shorten (file : Bool) (done : List Char) : List Char :=
  if file && isColonDrive (lastSegment done) then done else done.dropWhile (· != '/')

def endWithSlash (done : List Char) : List Char :=
  if done.head? == some '/' then done else '/' :: done

def add (file : Bool) (p : PathText) (segment : List Char) (more : Bool) : PathText :=
  let s := Percent.encode Percent.inPath segment
  let slash := if more then ['/'] else []
  if isDoubleDot s then
    let done := shorten file (dropSlash p.done)
    { p with done := if more then endWithSlash done else done }
  else if isDot s then { p with done := endWithSlash p.done }
  else if file && p.done.length = 1 && isDrive s then
    ⟨slash ++ ':' :: (s.take 1 ++ p.done), true⟩
  else { p with done := slash ++ s.reverse ++ p.done }

def addAll (file : Bool) : PathText → List (List Char) → PathText
  | p, [] => p
  | p, s :: rest => addAll file (p.add file s !rest.isEmpty) rest

def withOneSlash (cs : List Char) : List Char := '/' :: cs.dropWhile (· == '/')

end PathText

end Pagewise
