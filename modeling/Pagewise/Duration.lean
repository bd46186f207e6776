/-!
Lengths of time in whole nanoseconds, up to a longest one at which all arithmetic stops.
-/
namespace Pagewise

def Duration.second : Nat := 1000000000

def Duration.millisecond : Nat := 1000000

def Duration.longest : Nat := (UInt64.size - 1) * Duration.second + (Duration.second - 1)

structure Duration where
  nanoseconds : Nat
  le_longest : nanoseconds ≤ Duration.longest
  deriving DecidableEq

namespace Duration

/-- The length that comes closest. -/
def clamp (nanoseconds : Nat) : Duration := ⟨min nanoseconds longest, Nat.min_le_right _ _⟩

def ofSeconds (n : Nat) : Duration := clamp (n * second)

def ofMilliseconds (n : Nat) : Duration := clamp (n * millisecond)

def zero : Duration := clamp 0

instance : Inhabited Duration := ⟨zero⟩

def milliseconds (d : Duration) : Nat := d.nanoseconds / millisecond

def times (d : Duration) (k : Nat) : Duration := clamp (d.nanoseconds * k)

def atMost (d bound : Duration) : Duration := if d.nanoseconds ≤ bound.nanoseconds then d else bound

@[simp] theorem nanoseconds_clamp (n : Nat) : (clamp n).nanoseconds = min n longest := rfl

@[simp] theorem nanoseconds_atMost (d bound : Duration) :
    (d.atMost bound).nanoseconds = min d.nanoseconds bound.nanoseconds := by
  unfold atMost
  split <;> omega

@[ext] theorem ext {a b : Duration} (h : a.nanoseconds = b.nanoseconds) : a = b := by
  cases a; cases b; simp_all

/-! ### Written form -/

def fractionDigits (places n : Nat) : List Char :=
  let ds := Nat.toDigits 10 n
  let ds := List.replicate (places - ds.length) '0' ++ ds
  (ds.reverse.dropWhile (· == '0')).reverse

def inUnit (n unit places : Nat) (name : String) : String :=
  let fraction := fractionDigits places (n % unit)
  toString (n / unit) ++ (if fraction.isEmpty then "" else "." ++ String.ofList fraction) ++ name

/-- The length in the largest unit that it fills. -/
def write (d : Duration) : String :=
  let n := d.nanoseconds
  if second ≤ n then inUnit n second 9 "s"
  else if millisecond ≤ n then inUnit n millisecond 6 "ms"
  else if 1000 ≤ n then inUnit n 1000 3 "µs"
  else inUnit n 1 0 "ns"

end Duration

end Pagewise
