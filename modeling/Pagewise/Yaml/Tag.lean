import Pagewise.Text.Hexadecimal
import Pagewise.Text.Utf8

/-!
Tags. In the text of a document a tag is written as bytes, in which a percent sign stands before two
hexadecimal digits; what counts is what the tag says about the node behind it.
-/
namespace Pagewise.Yaml

inductive Tag where
  | null
  | bool
  | int
  | float
  | named (name : String)
  | illegible
  | foreign
  deriving DecidableEq, Repr

namespace Tag

def mark : List UInt8 := [33]

def width? (b : UInt8) : Option Nat :=
  if b < 0x80 then some 1
  else if 0xC0 ≤ b && b < 0xE0 then some 2
  else if 0xE0 ≤ b && b < 0xF0 then some 3
  else if 0xF0 ≤ b && b < 0xF8 then some 4
  else none

def continues (b : UInt8) : Bool := 0x80 ≤ b && b < 0xC0

/-- The bytes of a written tag. Escaped bytes come in groups that are as long as their first byte
says; `more` of the group are still to come. -/
def bytes? : (more : Nat) → List Char → Option (List UInt8)
  | 0, [] => some []
  | _ + 1, [] => none
  | more, '%' :: a :: b :: rest => do
    let b := UInt8.ofNat (← Text.hexNat? [a, b])
    match more with
    | 0 => return b :: (← bytes? ((← width? b) - 1) rest)
    | more + 1 => if continues b then return b :: (← bytes? more rest) else none
  | 0, c :: rest =>
    if c == '%' then none else (bytes? 0 rest).map (Text.Utf8.encode c.toString ++ ·)
  | _ + 1, _ :: _ => none

def unescape? (cs : List Char) : Option (List UInt8) :=
  (bytes? 0 cs).map fun bs => bs.takeWhile (· != 0)

def coreLead : String := "tag:yaml.org,2002:"

def core : List (String × Tag) :=
  [("null", .null), ("bool", .bool), ("int", .int), ("float", .float)]

def ofBytes (bs : List UInt8) : Tag :=
  match core.find? fun e => Text.Utf8.encode (coreLead ++ e.1) == bs with
  | some (_, tag) => tag
  | none =>
    if mark.isPrefixOf bs then
      match Text.Utf8.decode? (bs.drop mark.length) with
      | some name => .named name
      | none => .illegible
    else .foreign

end Tag

end Pagewise.Yaml
