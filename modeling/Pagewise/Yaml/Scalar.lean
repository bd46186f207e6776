import Pagewise.Text.Hexadecimal
import Pagewise.Yaml.Source

/-!
The text of scalars. Lines of plain and quoted text are folded: a single line break stands for a
space, further ones for themselves. Block text keeps its lines, or folds those that begin with no
blank.
-/
namespace Pagewise.Yaml

inductive Style where
  | plain
  | literal
  | folded
  | quoted
  deriving DecidableEq, Repr

structure Gap where
  spaces : List Char
  breaks : List Char
  rest : List Char

namespace Gap

/-- Read a gap. After a line break, a tab may not stand left of the indentation; `column` is there
once a line break has been read. -/
def read (indent : Int) : Option Nat → List Char → Option Gap
  | _, [] => some ⟨[], [], []⟩
  | column, c :: rest =>
    if isBlank c then
      match column with
      | none => (read indent none rest).map fun g => { g with spaces := c :: g.spaces }
      | some k => if c == '\t' && k < indent then none else read indent (some (k + 1)) rest
    else if isBreak c then
      (read indent (some 0) rest).map fun g => { g with breaks := c :: g.breaks }
    else some ⟨[], [], c :: rest⟩

def fold : List Char → List Char
  | ['\n'] => [' ']
  | '\n' :: more => more
  | breaks => breaks

def text (g : Gap) : List Char := if g.breaks.isEmpty then g.spaces else fold g.breaks

end Gap

/-! ### Plain text -/

def plainRun (flow : Bool) : List Char → Option (List Char × List Char)
  | [] => some ([], [])
  | c :: rest =>
    if isBlank c || isBreak c then some ([], c :: rest)
    else if flow && c == ':' && rest.head?.any (",?[]\x7b\x7d".contains ·) then none
    else if (c == ':' && endsWord rest.head?) || (flow && ",[]\x7b\x7d".contains c) then
      some ([], c :: rest)
    else (plainRun flow rest).map fun r => (c :: r.1, r.2)

structure PlainText where
  text : List Char
  broken : Bool
  after : Source

def plainWords (flow : Bool) (indent : Int) :
    Nat → (s : Source) → (text pending : List Char) → (broken : Bool) → Option PlainText
  | 0, _, _, _, _ => none
  | fuel + 1, s, text, pending, broken =>
    if s.atDocumentMark || s.ahead 0 == some '#' then some ⟨text, broken, s⟩
    else match plainRun flow s.rest with
      | none => none
      | some ([], _) => some ⟨text, broken, s⟩
      | some (run, rest) =>
        let s := s.upTo rest
        let text := text ++ pending ++ run
        if s.rest.isEmpty || !endsWord (s.ahead 0) then some ⟨text, false, s⟩
        else match Gap.read indent none s.rest with
          | none => none
          | some g =>
            let s := s.upTo g.rest
            let broken := !g.breaks.isEmpty
            if !flow && s.column < indent then some ⟨text, broken, s⟩
            else plainWords flow indent fuel s text g.text broken

/-! ### Quoted text -/

def hexChar? (digits : List Char) : Option Char :=
  (Text.hexNat? digits).bind fun n => if n.isValidChar then some (Char.ofNat n) else none

def letterEscapes : List (Char × Nat) :=
  [('0', 0), ('a', 7), ('b', 8), ('t', 9), ('\t', 9), ('n', 10), ('v', 11), ('f', 12), ('r', 13),
    ('e', 27), (' ', 32), ('"', 34), ('/', 47), ('\\', 92), ('N', 0x85), ('_', 0xA0), ('L', 0x2028),
    ('P', 0x2029)]

def escape? : List Char → Option (Char × Nat)
  | [] => none
  | c :: rest =>
    let hex := fun n =>
      if (rest.take n).length = n then (hexChar? (rest.take n)).map (·, n + 1) else none
    if c == 'x' then hex 2
    else if c == 'u' then hex 4
    else if c == 'U' then hex 8
    else (letterEscapes.lookup c).map fun n => (Char.ofNat n, 1)

/-- Characters up to a blank, a line break or the closing quote. The flag tells that a line break
was escaped and left out. -/
def quotedRun (double : Bool) (cs : List Char) : Option (List Char × Bool × List Char) :=
  match cs with
  | [] => some ([], false, [])
  | c :: rest =>
    if isBlank c || isBreak c then some ([], false, c :: rest)
    else if !double && c == '\'' then
      match rest with
      | '\'' :: rest => (quotedRun double rest).map fun r => ('\'' :: r.1, r.2)
      | _ => some ([], false, c :: rest)
    else if double && c == '"' then some ([], false, c :: rest)
    else if double && c == '\\' then
      if rest.head?.any isBreak then some ([], true, rest.drop 1)
      else match escape? rest with
        | none => none
        | some (e, n) => (quotedRun double (rest.drop n)).map fun r => (e :: r.1, r.2)
    else (quotedRun double rest).map fun r => (c :: r.1, r.2)
termination_by cs.length

def quotedText (double : Bool) : Nat → Source → List Char → Option (List Char × Source)
  | 0, _, _ => none
  | fuel + 1, s, text =>
    if s.atDocumentMark || s.rest.isEmpty then none
    else match quotedRun double s.rest with
      | none => none
      | some (run, escaped, rest) =>
        let s := s.upTo rest
        let text := text ++ run
        if !escaped && s.ahead 0 == some (if double then '"' else '\'') then some (text, s.step)
        else match Gap.read 0 (if escaped then some 0 else none) s.rest with
          | none => none
          | some g =>
            quotedText double fuel (s.upTo g.rest) (text ++ if escaped then g.breaks else g.text)

/-! ### Block text -/

inductive Chomp where
  | strip
  | clip
  | keep
  deriving DecidableEq

def blockHeader : List Char → Option (Chomp × Nat × List Char)
  | cs =>
    let chomp := fun c => if c == '+' then some Chomp.keep else if c == '-' then some .strip else none
    let digit := fun (c : Char) => if c.isDigit then some (c.toNat - 48) else none
    let finish := fun (c : Chomp) (n : Option Nat) rest =>
      if n == some 0 then none else some (c, n.getD 0, rest)
    match cs with
    | a :: rest =>
      match chomp a, digit a, rest with
      | some c, _, b :: rest' =>
        if b.isDigit then finish c (digit b) rest' else finish c none rest
      | some c, _, [] => finish c none rest
      | none, some n, b :: rest' =>
        match chomp b with
        | some c => finish c (some n) rest'
        | none => finish .clip (some n) rest
      | none, some n, [] => finish .clip (some n) rest
      | none, none, _ => finish .clip none cs
    | [] => finish .clip none cs

def lineEnd (cs : List Char) : Option (List Char) :=
  let cs := cs.dropWhile isBlank
  let cs := if cs.head? == some '#' then cs.dropWhile fun c => !isBreak c else cs
  match cs with
  | [] => some []
  | c :: rest => if isBreak c then some rest else none

/-- Empty lines, and the indentation of the line after them. An indentation of zero is one that is
not known yet: then all spaces count, and `deepest` is the most seen in a line. -/
def emptyLines (indent : Nat) : Nat → (deepest : Nat) → List Char →
    Option (List Char × Nat × Nat × List Char)
  | 0, _, _ => none
  | fuel + 1, deepest, cs =>
    let spaces := (cs.takeWhile (· == ' ')).length
    let n := if indent = 0 then spaces else min spaces indent
    let deepest := max deepest n
    match cs.drop n with
    | [] => some ([], deepest, n, [])
    | c :: rest =>
      if c == '\t' && (indent = 0 || n < indent) then none
      else if isBreak c then
        (emptyLines indent fuel deepest rest).map fun r => (c :: r.1, r.2)
      else some ([], deepest, n, c :: rest)

structure BlockState where
  text : List Char
  leadingBreak : List Char
  leadingBlank : Bool
  trailingBreaks : List Char

def BlockState.joined (folded : Bool) (b : BlockState) (blank : Bool) : List Char :=
  if folded && b.leadingBreak == ['\n'] && !b.leadingBlank && !blank then
    b.text ++ (if b.trailingBreaks.isEmpty then [' '] else []) ++ b.trailingBreaks
  else b.text ++ b.leadingBreak ++ b.trailingBreaks

def blockLines (folded : Bool) (indent : Nat) :
    Nat → (b : BlockState) → (n : Nat) → List Char → Option (BlockState × List Char)
  | 0, _, _, _ => none
  | fuel + 1, b, n, cs =>
    if n != indent || cs.isEmpty then some (b, cs)
    else
      let blank := cs.head?.any isBlank
      let text := b.joined folded blank ++ cs.takeWhile fun c => !isBreak c
      let rest := cs.dropWhile fun c => !isBreak c
      match emptyLines indent (rest.length + 1) 0 (rest.drop 1) with
      | none => none
      | some (breaks, _, n, rest') =>
        blockLines folded indent fuel ⟨text, rest.take 1, blank, breaks⟩ n rest'

def blockText (folded : Bool) (outer : Int) (cs : List Char) : Option (List Char × List Char) := do
  let (chomp, increment, rest) ← blockHeader cs
  let rest ← lineEnd rest
  let known := if increment = 0 then 0 else (max outer 0).toNat + increment
  let (breaks, deepest, n, rest) ← emptyLines known (rest.length + 1) 0 rest
  let indent := if known = 0 then max deepest (max (outer + 1) 1).toNat else known
  let (b, rest) ← blockLines folded indent (rest.length + 1) ⟨[], [], false, breaks⟩ n rest
  let text := if chomp == .strip then b.text else b.text ++ b.leadingBreak
  return (if chomp == .keep then text ++ b.trailingBreaks else text, rest)

end Pagewise.Yaml
