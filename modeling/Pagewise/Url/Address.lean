import Pagewise.Url.Domain

/-!
Internet addresses as hosts. An IPv4 address is up to four numbers, decimal, octal or hexadecimal,
the last one filling all places that are left; it is written in four decimal ones. An IPv6 address is
eight pieces of 16 bits; the first longest run of two or more zero pieces is left out in writing.
-/
namespace Pagewise.Address

def numeral? (base : Nat) (cs : List Char) : Option Nat :=
  cs.foldlM (fun acc c => (Text.hexValue? c).bind fun d =>
    if d < base then some (acc * base + d) else none) 0

/-! ### IPv4 -/

/-- A number: hexadecimal after `0x`, octal after `0`, else decimal. -/
def number? : List Char → Option Nat
  | [] => none
  | '0' :: 'x' :: rest => numeral? 16 rest
  | '0' :: 'X' :: rest => numeral? 16 rest
  | ['0'] => some 0
  | '0' :: rest => numeral? 8 rest
  | cs => numeral? 10 cs

def significant (labels : List (List Char)) : List (List Char) :=
  match labels.reverse with
  | [] :: rest => rest.reverse
  | _ => labels

/-- A host whose last label is a number is an address or an error. -/
def endsInNumber (labels : List (List Char)) : Bool :=
  match (significant labels).getLast? with
  | none => false
  | some l => (!l.isEmpty && l.all Char.isDigit) || (number? l).isSome

def ipv4OfNumbers? : List Nat → Nat → Option Nat
  | [], _ => none
  | [last], places => if last < Nat.pow 256 places then some last else none
  | n :: rest, places =>
    if n < 256 then (ipv4OfNumbers? rest (places - 1)).map (n * Nat.pow 256 (places - 1) + ·) else none

def ipv4? (labels : List (List Char)) : Option Nat :=
  let parts := significant labels
  if 4 < parts.length then none
  else (parts.mapM number?).bind fun numbers => ipv4OfNumbers? numbers 4

def writeIpv4 (a : Nat) : String :=
  ".".intercalate [toString (a / Nat.pow 256 3), toString (a / Nat.pow 256 2 % 256),
    toString (a / 256 % 256), toString (a % 256)]

/-! ### IPv6 -/

def splitOnColon : List Char → List (List Char)
  | [] => [[]]
  | c :: rest =>
    match splitOnColon rest with
    | [] => [[c]]
    | l :: ls => if c == ':' then [] :: l :: ls else (c :: l) :: ls

def byte? (cs : List Char) : Option Nat :=
  match cs with
  | [] => none
  | '0' :: _ :: _ => none
  | cs => if cs.length ≤ 3 then (numeral? 10 cs).filter (· < 256) else none

def lastPieces? (cs : List Char) : Option (List Nat) :=
  match Domain.labels cs with
  | [_] => if cs.length ≤ 4 then (numeral? 16 cs).map ([·]) else none
  | [a, b, c, d] => do
    return [256 * (← byte? a) + (← byte? b), 256 * (← byte? c) + (← byte? d)]
  | _ => none

def pieces? : List (List Char) → Option (List (Option Nat))
  | [] => some []
  | [] :: rest => (pieces? rest).map (none :: ·)
  | [l] => (lastPieces? l).map fun ns => ns.map some
  | l :: rest =>
    if l.length ≤ 4 then do return some (← numeral? 16 l) :: (← pieces? rest) else none

def parts? (cs : List Char) : Option (List (List Char)) :=
  let trim := fun (parts : List (List Char)) =>
    match parts with
    | [] :: [] :: rest => some ([] :: rest)
    | [] :: _ => none
    | parts => some parts
  if cs.length < 2 then none
  else (trim (splitOnColon cs)).bind fun parts =>
    if parts.length = 1 then some parts
    else if parts == [[], []] then some [[]]
    else (trim parts.reverse).map List.reverse

def ipv6? (cs : List Char) : Option (List Nat) := do
  let pieces ← pieces? (← parts? cs)
  let before := pieces.takeWhile Option.isSome
  let after := pieces.drop (before.length + 1)
  if before.length = pieces.length then
    if pieces.length = 8 then some (pieces.filterMap id) else none
  else if after.all Option.isSome && pieces.length ≤ 8 then
    some (before.filterMap id ++ List.replicate (9 - pieces.length) 0 ++ after.filterMap id)
  else none

def longestRun : Nat → List Nat → Nat × Nat
  | _, [] => (0, 0)
  | i, n :: rest =>
    let here := ((n :: rest).takeWhile (· == 0)).length
    let later := longestRun (i + 1) rest
    if here < later.2 || here = 0 then later else (i, here)

def writePieces (pieces : List Nat) : String :=
  ":".intercalate (pieces.map fun n => String.ofList (Nat.toDigits 16 n))

def writeIpv6 (pieces : List Nat) : String :=
  let run := longestRun 0 pieces
  if run.2 < 2 then writePieces pieces
  else writePieces (pieces.take run.1) ++ "::" ++ writePieces (pieces.drop (run.1 + run.2))

end Pagewise.Address
