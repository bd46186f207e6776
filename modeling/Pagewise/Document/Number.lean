import Pagewise.Binary64.Shortest

/-!
Numbers of a document: an integer, or a binary64 number. The two kinds are never equal, so `1` is
not `1.0`. Numerals are read by scaling the digits that fit in 64 bits by a power of ten, with one
rounding for the digits and one or two for the scaling.
-/
namespace Pagewise

inductive Number where
  | int (value : Int)
  | real (value : Binary64)

namespace Number

instance : Inhabited Number := ⟨.int 0⟩

instance : BEq Number where
  beq
    | .int a, .int b => a == b
    | .real a, .real b => a == b
    | _, _ => false

theorem beq_self (n : Number) : (n == n) = true := by
  cases n with
  | int value => exact beq_self_eq_true value
  | real value => simp [BEq.beq]

def toNat? : Number → Option Nat
  | .int (.ofNat n) => some n
  | _ => none

/-! ### Written form -/

structure Layout where
  leastPositional : Int
  greatestPositional : Int

/-- Exponents from -5 to 15 are positional, others are written with `e` and a sign if positive. -/
def layout : Layout := ⟨-5, 15⟩

def zeros (n : Nat) : String := String.ofList (List.replicate n '0')

def writeDecimal (d : Binary64.Decimal) : String :=
  let ds := Nat.toDigits 10 d.digits
  let point : Int := ds.length + d.exponent
  let exponent := point - 1
  if exponent < layout.leastPositional || layout.greatestPositional < exponent then
    let mantissa := match ds with
      | [] => ""
      | [c] => String.ofList [c]
      | c :: rest => String.ofList (c :: '.' :: rest)
    mantissa ++ "e" ++ (if exponent < 0 then "-" else "+") ++ toString exponent.natAbs
  else if point ≤ 0 then "0." ++ zeros (-point).toNat ++ String.ofList ds
  else if ds.length ≤ point.toNat then
    String.ofList ds ++ zeros (point.toNat - ds.length) ++ ".0"
  else String.ofList (ds.take point.toNat ++ '.' :: ds.drop point.toNat)

def writeReal (x : Binary64) : String :=
  (if x.negative then "-" else "") ++
    (if x.place = 0 then "0.0" else writeDecimal (Binary64.shortest x.place))

def write : Number → String
  | .int n => toString n
  | .real x => writeReal x

/-! ### Reading -/

def digitsValue (ds : List Char) : Nat := ds.foldl (fun n c => 10 * n + (c.toNat - 48)) 0

def natural? (bound : Nat) (cs : List Char) : Option Nat :=
  let ds := match cs with
    | '+' :: ds => ds
    | ds => ds
  if ds.isEmpty || !ds.all Char.isDigit then none
  else some (digitsValue ds) |>.filter (· < bound)

/-- Append digits to a value while it stays below 2^64; the second part counts the digits that were
left out, the first one that does not fit and all after it. -/
def appendDigits (acc : Nat) : List Char → Nat × Nat
  | [] => (acc, 0)
  | c :: rest =>
    let next := acc * 10 + (c.toNat - 48)
    if next < UInt64.size then appendDigits next rest else (acc, rest.length + 1)

def powerOfTen? (k : Nat) : Option Binary64 := Binary64.nearest? false (Nat.pow 10 k) 1

def scale (x : Binary64) (exponent : Int) : Option Binary64 :=
  if 0 ≤ exponent then
    if exponent ≤ 308 then (powerOfTen? exponent.toNat).bind (x.mul? ·)
    else if x.place = 0 then some x else none
  else
    let k := (-exponent).toNat
    if k ≤ 308 then (powerOfTen? k).bind (x.div? ·)
    else if k ≤ 616 then
      (powerOfTen? 308).bind fun p => (x.div? p).bind fun y =>
        (powerOfTen? (k - 308)).bind (y.div? ·)
    else some Binary64.zero

def ofDigits (negative : Bool) (whole fraction : List Char) (exponent : Int) : Option Number := do
  let (high, droppedWhole) := appendDigits 0 whole
  let (significand, droppedFraction) := appendDigits high fraction
  let power : Int := droppedWhole - (fraction.length - droppedFraction : Nat) + exponent
  let x ← Binary64.nearest? false significand 1
  let y ← scale x power
  return .real (if negative then y.neg else y)

/-- An integer numeral: exact between -2^63 and 2^64 - 1, else a binary64 number; so is `-0`. -/
def ofInteger (negative : Bool) (whole : List Char) : Option Number :=
  let (n, dropped) := appendDigits 0 whole
  if dropped != 0 then ofDigits negative whole [] 0
  else if !negative then some (.int n)
  else if n = 0 || Nat.pow 2 63 < n then ofDigits true whole [] 0
  else some (.int (-n))

end Number

end Pagewise
