import Pagewise.Json.Basic
import Pagewise.Text.Hexadecimal

/-!
Reading JSON text. Containers nest at most 127 deep, escapes have to make up whole characters and
numbers have to be in range; in a part that is skipped, only the grammar counts. The readers answer
with the text that is left.
-/
namespace Pagewise.Json

inductive Use where
  | kept
  | skipped
  deriving DecidableEq

def depthLimit : Nat := 128

namespace Reader

def isSpace (c : Char) : Bool := c == ' ' || c == '\n' || c == '\t' || c == '\r'

def skipSpace (cs : List Char) : List Char := cs.dropWhile isSpace

def unit? (a b c d : Char) : Option Nat := Text.hexNat? [a, b, c, d]

def escaped? (c : Char) : Option Char :=
  match c with
  | '"' => some '"'
  | '\\' => some '\\'
  | '/' => some '/'
  | 'b' => some (Char.ofNat 8)
  | 'f' => some (Char.ofNat 12)
  | 'n' => some '\n'
  | 'r' => some '\r'
  | 't' => some '\t'
  | _ => none

def isHighUnit (n : Nat) : Bool := 0xD800 ≤ n && n < 0xDC00

def isLowUnit (n : Nat) : Bool := 0xDC00 ≤ n && n < 0xE000

/-- The characters up to the closing quote. A unit of a pair is refused on its own if kept. -/
def stringBody (use : Use) : List Char → Option (List Char × List Char)
  | [] => none
  | '"' :: rest => some ([], rest)
  | '\\' :: 'u' :: a :: b :: c :: d :: rest =>
    match unit? a b c d with
    | none => none
    | some n =>
      if isHighUnit n && use == .kept then
        match rest with
        | '\\' :: 'u' :: e :: f :: g :: h :: rest =>
          match unit? e f g h with
          | none => none
          | some m =>
            if isLowUnit m then
              (stringBody use rest).map fun r =>
                (Char.ofNat (0x10000 + (n - 0xD800) * 1024 + (m - 0xDC00)) :: r.1, r.2)
            else none
        | _ => none
      else if isLowUnit n && use == .kept then none
      else (stringBody use rest).map fun r => (Char.ofNat n :: r.1, r.2)
  | '\\' :: c :: rest =>
    match escaped? c with
    | none => none
    | some e => (stringBody use rest).map fun r => (e :: r.1, r.2)
  | c :: rest => if c < ' ' then none else (stringBody use rest).map fun r => (c :: r.1, r.2)

def takeDigits (cs : List Char) : List Char × List Char :=
  (cs.takeWhile Char.isDigit, cs.dropWhile Char.isDigit)

def exponentPart (cs : List Char) : Option (Option Int × List Char) :=
  match cs with
  | e :: rest =>
    if e == 'e' || e == 'E' then
      let (negative, rest) := match rest with
        | '-' :: r => (true, r)
        | '+' :: r => (false, r)
        | r => (false, r)
      match takeDigits rest with
      | ([], _) => none
      | (ds, rest) =>
        let n : Int := Number.digitsValue ds
        some (some (if negative then -n else n), rest)
    else some (none, cs)
  | [] => some (none, cs)

def numeral (use : Use) (cs : List Char) : Option (Number × List Char) :=
  let (negative, cs) := match cs with
    | '-' :: r => (true, r)
    | r => (false, r)
  let (whole, rest) := takeDigits cs
  if whole.isEmpty || (whole.head? == some '0' && whole.length != 1) then none
  else
    let fraction := match rest with
      | '.' :: r => (match takeDigits r with
        | ([], _) => none
        | (ds, r) => some (some ds, r))
      | r => some (none, r)
    fraction.bind fun (fraction, rest) => (exponentPart rest).bind fun (exponent, rest) =>
      if use == .skipped then some (.int 0, rest)
      else
        let value := if fraction.isNone && exponent.isNone then Number.ofInteger negative whole
          else Number.ofDigits negative whole (fraction.getD []) (exponent.getD 0)
        value.map (·, rest)

mutual

def value : Nat → Use → Nat → List Char → Option (Json × List Char)
  | 0, _, _, _ => none
  | fuel + 1, use, depth, cs =>
    match skipSpace cs with
    | 'n' :: 'u' :: 'l' :: 'l' :: rest => some (.null, rest)
    | 't' :: 'r' :: 'u' :: 'e' :: rest => some (.bool true, rest)
    | 'f' :: 'a' :: 'l' :: 's' :: 'e' :: rest => some (.bool false, rest)
    | '"' :: rest => (stringBody use rest).map fun r => (.string (String.ofList r.1), r.2)
    | '[' :: rest =>
      if use == .kept && depth ≤ 1 then none
      else match skipSpace rest with
        | ']' :: rest => some (.array [], rest)
        | rest => (elements fuel use (depth - 1) rest).map fun r => (.array r.1, r.2)
    | '{' :: rest =>
      if use == .kept && depth ≤ 1 then none
      else (object fuel use (fun _ => use) (depth - 1) rest).map fun r => (.object r.1, r.2)
    | rest => (numeral use rest).map fun r => (.number r.1, r.2)

def elements : Nat → Use → Nat → List Char → Option (List Json × List Char)
  | 0, _, _, _ => none
  | fuel + 1, use, depth, cs =>
    match value fuel use depth cs with
    | none => none
    | some (v, rest) =>
      match skipSpace rest with
      | ',' :: rest => (elements fuel use depth rest).map fun r => (v :: r.1, r.2)
      | ']' :: rest => some ([v], rest)
      | _ => none

def object : Nat → Use → (String → Use) → Nat → List Char →
    Option (List (String × Json) × List Char)
  | 0, _, _, _, _ => none
  | fuel + 1, keys, useOf, depth, cs =>
    match skipSpace cs with
    | '}' :: rest => some ([], rest)
    | rest => members fuel keys useOf depth rest

def members : Nat → Use → (String → Use) → Nat → List Char →
    Option (List (String × Json) × List Char)
  | 0, _, _, _, _ => none
  | fuel + 1, keys, useOf, depth, cs =>
    match skipSpace cs with
    | '"' :: rest =>
      match stringBody keys rest with
      | none => none
      | some (name, rest) =>
        match skipSpace rest with
        | ':' :: rest =>
          match value fuel (useOf (String.ofList name)) depth rest with
          | none => none
          | some (v, rest) =>
            match skipSpace rest with
            | ',' :: rest =>
              (members fuel keys useOf depth rest).map fun r =>
                ((String.ofList name, v) :: r.1, r.2)
            | '}' :: rest => some ([(String.ofList name, v)], rest)
            | _ => none
        | _ => none
    | _ => none

end

def whole {α : Type} (r : Option (α × List Char)) : Option α :=
  r.bind fun (a, rest) => if (skipSpace rest).isEmpty then some a else none

end Reader

/-- The value that a text consists of. Every step of the reader consumes a character or descends
one of four levels, so the fuel never runs out. -/
def parse (text : String) : Option Json :=
  Reader.whole (Reader.value (4 * text.length + 4) .kept depthLimit text.toList)

def parseRecord (fields : List String) (text : String) : Option Json :=
  let fuel := 4 * text.length + 4
  match Reader.skipSpace text.toList with
  | '{' :: rest =>
    let useOf := fun name => if fields.contains name then Use.kept else Use.skipped
    (Reader.whole (Reader.object fuel .kept useOf (depthLimit - 1) rest)).map .object
  | _ => parse text

end Pagewise.Json
