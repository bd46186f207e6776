import Pagewise.Duration
import Pagewise.Json.Basic

/-!
Delays between attempts: the same every time, growing by one step each time, or doubling.
-/
namespace Pagewise

inductive Backoff where
  | constant
  | linear
  | exponential
  deriving DecidableEq, Repr

namespace Backoff

instance : Inhabited Backoff := ⟨.exponential⟩

def name : Backoff → String
  | .constant => "constant"
  | .linear => "linear"
  | .exponential => "exponential"

def ofName? (s : String) : Option Backoff :=
  [("constant", .constant), ("linear", .linear), ("exponential", .exponential)].lookup s

def ofJson? : Json → Option Backoff
  | .string s => ofName? s
  | .object [(s, .null)] => ofName? s
  | _ => none

def greatestFactor : Nat := UInt32.size - 1

/-- How many times the first delay the delay after an attempt is; attempts count from zero. -/
def factor (b : Backoff) (attempt : UInt32) : Nat :=
  match b with
  | .constant => 1
  | .linear => min (attempt.toNat + 1) greatestFactor
  | .exponential => if attempt.toNat < 32 then Nat.pow 2 attempt.toNat else greatestFactor

end Backoff

structure RetryPolicy where
  /-- Attempts after the first one. -/
  maxRetries : UInt32
  backoff : Backoff
  initial : Duration
  cap : Duration

namespace RetryPolicy

/-- The delay after a failed attempt, by its number. -/
def delay (p : RetryPolicy) (attempt : UInt32) : Duration :=
  (p.initial.times (p.backoff.factor attempt)).atMost p.cap

end RetryPolicy

end Pagewise
