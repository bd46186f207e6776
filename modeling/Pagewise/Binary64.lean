/-!
Finite binary64 numbers, by exact arithmetic on naturals. A number is a sign and the place of its
absolute value among the finite ones in increasing order, so the next larger value is the next
place. `nearest?` rounds a quotient to the closest number, ties to the even place.
-/
namespace Pagewise

structure Binary64 where
  negative : Bool
  /-- Place of the absolute value: zero is 0, the least positive number is 1. -/
  place : Nat
  place_lt : place < 2047 * Nat.pow 2 52 := by decide

namespace Binary64

def zero : Binary64 := ⟨false, 0, by decide⟩

instance : Inhabited Binary64 := ⟨zero⟩

def neg (x : Binary64) : Binary64 := { x with negative := !x.negative }

instance : BEq Binary64 :=
  ⟨fun x y => x.place == y.place && (x.negative == y.negative || x.place == 0)⟩

/-- The integer `m` of the decomposition `m * 2 ^ (e - 1074)`. -/
def significand (place : Nat) : Nat :=
  if place < Nat.pow 2 52 then place else Nat.pow 2 52 + place % Nat.pow 2 52

def scale (place : Nat) : Nat := place / Nat.pow 2 52 - 1

def quotient (place : Nat) : Nat × Nat :=
  if scale place < 1074 then (significand place, Nat.pow 2 (1074 - scale place))
  else (significand place * Nat.pow 2 (scale place - 1074), 1)

def roundHalfEven (num den : Nat) : Nat :=
  let q := num / den
  let r := num % den
  if 2 * r < den then q else if den < 2 * r then q + 1 else if q % 2 = 0 then q else q + 1

def floorLog2 (num den : Nat) : Int :=
  let k : Int := (num.log2 : Int) - den.log2
  if 0 ≤ k then (if den * Nat.pow 2 k.toNat ≤ num then k else k - 1)
  else if den ≤ num * Nat.pow 2 (-k).toNat then k else k - 1

def nearestPlace (num den : Nat) : Nat :=
  if num = 0 then 0
  else
    let q : Int := max (-1074) (floorLog2 num den - 52)
    let m := if 0 ≤ q then roundHalfEven num (den * Nat.pow 2 q.toNat)
      else roundHalfEven (num * Nat.pow 2 (-q).toNat) den
    (q + 1074).toNat * Nat.pow 2 52 + m

/-- The number closest to a quotient, absent when that is beyond the finite ones. -/
def nearest? (negative : Bool) (num den : Nat) : Option Binary64 :=
  if h : nearestPlace num den < 2047 * Nat.pow 2 52 then some ⟨negative, nearestPlace num den, h⟩
  else none

def mul? (x y : Binary64) : Option Binary64 :=
  nearest? (x.negative != y.negative)
    ((quotient x.place).1 * (quotient y.place).1) ((quotient x.place).2 * (quotient y.place).2)

def div? (x y : Binary64) : Option Binary64 :=
  nearest? (x.negative != y.negative)
    ((quotient x.place).1 * (quotient y.place).2) ((quotient x.place).2 * (quotient y.place).1)

end Binary64

end Pagewise
