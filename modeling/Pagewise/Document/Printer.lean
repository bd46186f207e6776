import Pagewise.Document.Basic
import Pagewise.Json.Text

/-!
Documents as text. The compact form has no space at all; the indented form puts each member and
element on a line of its own, two spaces deeper than its container, and keeps empty containers
closed up. Text is escaped only where it must be.
-/
namespace Pagewise.Document

def hexDigit (n : Nat) : Char := if n < 10 then Char.ofNat (48 + n) else Char.ofNat (87 + n)

def escape (c : Char) : List Char :=
  if c == '"' then ['\\', '"']
  else if c == '\\' then ['\\', '\\']
  else if c == '\n' then ['\\', 'n']
  else if c == '\r' then ['\\', 'r']
  else if c == '\t' then ['\\', 't']
  else if c.toNat = 8 then ['\\', 'b']
  else if c.toNat = 12 then ['\\', 'f']
  else if c.toNat < 32 then
    ['\\', 'u', '0', '0', hexDigit (c.toNat / 16), hexDigit (c.toNat % 16)]
  else [c]

def quote (s : String) : List Char := '"' :: (s.toList.flatMap escape ++ ['"'])

structure Form where
  lead : Nat → List Char
  colon : List Char

def compactForm : Form := ⟨fun _ => [], [':']⟩

def indentedForm : Form := ⟨fun depth => '\n' :: List.replicate (2 * depth) ' ', [':', ' ']⟩

mutual

def write (form : Form) (depth : Nat) : Document → List Char
  | .null => ['n', 'u', 'l', 'l']
  | .bool true => ['t', 'r', 'u', 'e']
  | .bool false => ['f', 'a', 'l', 's', 'e']
  | .number n => n.write.toList
  | .string s => quote s
  | .array [] => ['[', ']']
  | .array items => '[' :: (writeItems form (depth + 1) items ++ form.lead depth ++ [']'])
  | .object .nil => ['{', '}']
  | .object ms => '{' :: (writeMembers form (depth + 1) ms ++ form.lead depth ++ ['}'])

def writeItems (form : Form) (depth : Nat) : List Document → List Char
  | [] => []
  | [x] => form.lead depth ++ write form depth x
  | x :: xs => form.lead depth ++ write form depth x ++ ',' :: writeItems form depth xs

def writeMembers (form : Form) (depth : Nat) : {bound : Option String} → Members bound → List Char
  | _, .nil => []
  | _, .cons name _ value .nil =>
    form.lead depth ++ quote name ++ form.colon ++ write form depth value
  | _, .cons name _ value rest =>
    form.lead depth ++ quote name ++ form.colon ++ write form depth value ++
      ',' :: writeMembers form depth rest

end

def compact (d : Document) : String := String.ofList (d.write compactForm 0)

def indented (d : Document) : String := String.ofList (d.write indentedForm 0)

def parse (text : String) : Option Document := (Json.parse text).map ofJson

end Pagewise.Document
