import Pagewise.Binary64

/-!
The fewest decimal digits that read back. Every real between the two midpoints towards a number's
neighbours rounds to the number; the ends do too when its place is even. For one digit, two digits
and so on, the two multiples of the grid around the value are tried; the first grid with a hit wins,
and of two hits the nearer one, a tie going to the even digit.
-/
namespace Pagewise.Binary64

structure Decimal where
  digits : Nat
  exponent : Int
  deriving Repr, DecidableEq

namespace Decimal

def quotient (d : Decimal) : Nat × Nat :=
  if 0 ≤ d.exponent then (d.digits * Nat.pow 10 d.exponent.toNat, 1)
  else (d.digits, Nat.pow 10 (-d.exponent).toNat)

def stripZeros : Nat → Decimal → Decimal
  | 0, d => d
  | fuel + 1, d =>
    if d.digits % 10 = 0 && d.digits != 0 then stripZeros fuel ⟨d.digits / 10, d.exponent + 1⟩
    else d

end Decimal

def digitCount (n : Nat) : Nat := if n = 0 then 0 else (Nat.toDigits 10 n).length

def floorLog10 (num den : Nat) : Int :=
  if den ≤ num then (digitCount (num / den) : Int) - 1
  else -(digitCount ((den - 1) / num) : Int)

/-- A decimal rounds to the number at a place: it lies between the midpoints, and on one of them
only if the place is even. -/
def ReadsBack (place : Nat) (d : Decimal) : Prop :=
  let v := Binary64.quotient place
  let below := Binary64.quotient (place - 1)
  let above := Binary64.quotient (place + 1)
  let x := d.quotient
  let lower := (2 * x.1 * (v.2 * below.2), x.2 * (v.1 * below.2 + below.1 * v.2))
  let upper := (2 * x.1 * (v.2 * above.2), x.2 * (v.1 * above.2 + above.1 * v.2))
  if place % 2 = 0 then lower.2 ≤ lower.1 ∧ upper.1 ≤ upper.2
  else lower.2 < lower.1 ∧ upper.1 < upper.2

instance (place : Nat) (d : Decimal) : Decidable (ReadsBack place d) := by
  unfold ReadsBack; simp only; split <;> infer_instance

def neighbours (place : Nat) (exponent : Int) : List Decimal :=
  let v := Binary64.quotient place
  let num := if 0 ≤ exponent then v.1 else v.1 * Nat.pow 10 (-exponent).toNat
  let den := if 0 ≤ exponent then v.2 * Nat.pow 10 exponent.toNat else v.2
  let low := num / den
  let r := num % den
  let lowFirst := 2 * r < den || (2 * r == den && low % 2 == 0)
  if lowFirst then [⟨low, exponent⟩, ⟨low + 1, exponent⟩] else [⟨low + 1, exponent⟩, ⟨low, exponent⟩]

def searchGrids (place : Nat) : Nat → Int → Decimal
  | 0, exponent => (neighbours place exponent).headD ⟨0, exponent⟩
  | more + 1, exponent =>
    match (neighbours place exponent).find? fun d => decide (ReadsBack place d) with
    | some d => d
    | none => searchGrids place more (exponent - 1)

/-- The shortest decimal of a positive number, without trailing zeros. -/
def shortest (place : Nat) : Decimal :=
  let v := Binary64.quotient place
  Decimal.stripZeros 20 (searchGrids place 16 (floorLog10 v.1 v.2))

end Pagewise.Binary64
