/-!
Punycode: text over all characters written with ASCII letters and digits. The ASCII characters come
first; the others follow in increasing order of their values, each as the distance that a counter of
values and places has to travel to reach it. Distances are numerals whose digits have varying weights.
-/
namespace Pagewise.Punycode

/-- The least digit that does not end a numeral, at some place. -/
def threshold (place bias : Nat) : Nat :=
  if place ≤ bias then 1 else if bias + 26 ≤ place then 26 else place - bias

theorem one_le_threshold (place bias : Nat) : 1 ≤ threshold place bias := by
  unfold threshold
  split
  · omega
  · split <;> omega

def shrink (delta place : Nat) : Nat :=
  if 455 < delta then shrink (delta / 35) (place + 36) else place + 36 * delta / (delta + 38)
termination_by delta
decreasing_by omega

def adapt (delta placed : Nat) (first : Bool) : Nat :=
  let delta := if first then delta / 700 else delta / 2
  shrink (delta + delta / placed) 0

def digitChar (d : Nat) : Char := if d < 26 then Char.ofNat (97 + d) else Char.ofNat (22 + d)

def digit? (c : Char) : Option Nat :=
  if 'a' ≤ c && c ≤ 'z' then some (c.toNat - 97)
  else if 'A' ≤ c && c ≤ 'Z' then some (c.toNat - 65)
  else if '0' ≤ c && c ≤ '9' then some (c.toNat - 22)
  else none

/-! ### Writing -/

def writeNumeral (bias place q : Nat) : List Char :=
  let t := threshold place bias
  if q < t then [digitChar q]
  else digitChar (t + (q - t) % (36 - t)) :: writeNumeral bias (place + 36) ((q - t) / (36 - t))
termination_by q
decreasing_by
  have := one_le_threshold place bias
  have := Nat.div_le_self (q - threshold place bias) (36 - threshold place bias)
  omega

structure Writer where
  written : List Char
  delta : Nat
  bias : Nat
  placed : Nat

def Writer.pass (ascii n : Nat) (w : Writer) (c : Char) : Writer :=
  if c.toNat < n then { w with delta := w.delta + 1 }
  else if c.toNat = n then
    { written := w.written ++ writeNumeral w.bias 36 w.delta, delta := 0,
      bias := adapt w.delta (w.placed + 1) (w.placed == ascii), placed := w.placed + 1 }
  else w

def rounds (text : List Char) (ascii : Nat) : List Nat → Nat → Writer → Writer
  | [], _, w => w
  | m :: rest, n, w =>
    let w := { w with delta := w.delta + (m - n) * (w.placed + 1) }
    let w := text.foldl (Writer.pass ascii m) w
    rounds text ascii rest (m + 1) { w with delta := w.delta + 1 }

def insertValue (n : Nat) : List Nat → List Nat
  | [] => [n]
  | m :: ms => if n < m then n :: m :: ms else if n = m then m :: ms else m :: insertValue n ms

def isAscii (c : Char) : Bool := c.toNat < 128

def values (text : List Char) : List Nat :=
  (text.filter fun c => !isAscii c).foldr (fun c ns => insertValue c.toNat ns) []

def encode (text : List Char) : List Char :=
  let ascii := text.filter isAscii
  let lead := if ascii.isEmpty then [] else ascii ++ ['-']
  lead ++ (rounds text ascii.length (values text) 128 ⟨[], 0, 72, ascii.length⟩).written

/-! ### Reading -/

def bound : Nat := UInt32.size

def readNumeral (bias : Nat) : Nat → Nat → Nat → List Char → Option (Nat × List Char)
  | _, _, _, [] => none
  | place, weight, acc, c :: rest =>
    match digit? c with
    | none => none
    | some d =>
      let t := threshold place bias
      let acc := acc + d * weight
      if bound ≤ acc then none
      else if d < t then some (acc, rest)
      else if bound ≤ weight * (36 - t) then none
      else readNumeral bias (place + 36) (weight * (36 - t)) acc rest

theorem length_readNumeral {bias place weight acc : Nat} {cs : List Char} {r : Nat × List Char}
    (h : readNumeral bias place weight acc cs = some r) : r.2.length < cs.length := by
  induction cs generalizing place weight acc with
  | nil => simp [readNumeral] at h
  | cons c rest ih =>
    rw [readNumeral] at h
    split at h
    · simp at h
    · simp only at h
      split at h
      · simp at h
      · split at h
        · rw [← Option.some.inj h]; simp
        · split at h
          · simp at h
          · exact Nat.lt_succ_of_lt (ih h)

/-- Place the characters that the rest of the text stands for: the counter is at place `i` of the
round for the value `n`. -/
def fill (text : List Char) (n i bias : Nat) (cs : List Char) : Option (List Char) :=
  if cs.isEmpty then some text
  else
    match h : readNumeral bias 36 1 i cs with
    | none => none
    | some (j, rest) =>
      have := length_readNumeral h
      let size := text.length + 1
      let value := n + j / size
      if value.isValidChar then
        fill (text.take (j % size) ++ Char.ofNat value :: text.drop (j % size)) value (j % size + 1)
          (adapt (j - i) size (i == 0)) rest
      else none
termination_by cs.length

/-- The text of a code. What stands before its last hyphen stands for itself; a hyphen in front has
nothing before it and is no digit either. -/
def decode? (cs : List Char) : Option (List Char) :=
  let tail := (cs.reverse.takeWhile (· != '-')).reverse
  let lead := cs.take (cs.length - tail.length - 1)
  if cs.head? == some '-' && lead.isEmpty then none
  else if lead.all isAscii then fill lead 128 0 72 tail
  else none

end Pagewise.Punycode
