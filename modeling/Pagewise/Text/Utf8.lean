/-!
Reading text from bytes. `decode?` accepts exactly well-formed UTF-8; `decodeLossy` puts U+FFFD in
the place of each longest run of bytes that begins a character and does not finish it, and of each
byte that begins none.
-/
namespace Pagewise.Text.Utf8

/-- What a leading byte announces: its own payload and the range allowed for each byte after it. -/
def announced (b : UInt8) : Option (UInt32 × List (UInt8 × UInt8)) :=
  if b < 0x80 then some (b.toUInt32, [])
  else if 0xC2 ≤ b && b ≤ 0xDF then some (b.toUInt32 &&& 0x1F, [(0x80, 0xBF)])
  else if b == 0xE0 then some (0, [(0xA0, 0xBF), (0x80, 0xBF)])
  else if b == 0xED then some (0xD, [(0x80, 0x9F), (0x80, 0xBF)])
  else if 0xE1 ≤ b && b ≤ 0xEF then some (b.toUInt32 &&& 0x0F, [(0x80, 0xBF), (0x80, 0xBF)])
  else if b == 0xF0 then some (0, [(0x90, 0xBF), (0x80, 0xBF), (0x80, 0xBF)])
  else if 0xF1 ≤ b && b ≤ 0xF3 then
    some (b.toUInt32 &&& 0x07, [(0x80, 0xBF), (0x80, 0xBF), (0x80, 0xBF)])
  else if b == 0xF4 then some (4, [(0x80, 0x8F), (0x80, 0xBF), (0x80, 0xBF)])
  else none

def finish : UInt32 → List (UInt8 × UInt8) → List UInt8 → Option Char × List UInt8
  | acc, [], rest => (some (Char.ofNat acc.toNat), rest)
  | _, _ :: _, [] => (none, [])
  | acc, (lo, hi) :: more, b :: rest =>
    if lo ≤ b && b ≤ hi then finish (acc * 64 + (b.toUInt32 &&& 0x3F)) more rest
    else (none, b :: rest)

theorem length_finish_le (acc : UInt32) (more : List (UInt8 × UInt8)) (bs : List UInt8) :
    (finish acc more bs).2.length ≤ bs.length := by
  induction more generalizing acc bs with
  | nil => simp [finish]
  | cons r more ih =>
    cases bs with
    | nil => simp [finish]
    | cons b rest =>
      rw [finish]
      split
      · exact Nat.le_succ_of_le (ih _ _)
      · simp

/-- The characters in order, with an absent one for each ill-formed stretch. -/
def pieces : List UInt8 → List (Option Char)
  | [] => []
  | b :: rest =>
    match announced b with
    | none => none :: pieces rest
    | some (acc, more) => (finish acc more rest).1 :: pieces (finish acc more rest).2
termination_by bs => bs.length
decreasing_by
  · simp
  · exact Nat.lt_succ_of_le (length_finish_le _ _ _)

def decode? (bytes : List UInt8) : Option String :=
  ((pieces bytes).mapM id).map String.ofList

def decodeLossy (bytes : List UInt8) : String :=
  String.ofList ((pieces bytes).map fun c => c.getD (Char.ofNat 0xFFFD))

def encode (s : String) : List UInt8 := s.toUTF8.toList

end Pagewise.Text.Utf8
