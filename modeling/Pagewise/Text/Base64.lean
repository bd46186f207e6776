/-!
Base 64: three bytes as four digits of six bits. A last group of one or two bytes has as many digits
as it needs, and signs of equality in the place of the others.
-/
namespace Pagewise.Text.Base64

def digit (n : Nat) : Char :=
  if n < 26 then Char.ofNat (65 + n)
  else if n < 52 then Char.ofNat (71 + n)
  else if n < 62 then Char.ofNat (n - 4)
  else if n = 62 then '+'
  else '/'

def digitAt (n i : Nat) : Char := digit (n / Nat.pow 64 i % 64)

def encode : List UInt8 → List Char
  | [] => []
  | [a] =>
    let n := a.toNat * 65536
    [digitAt n 3, digitAt n 2, '=', '=']
  | [a, b] =>
    let n := a.toNat * 65536 + b.toNat * 256
    [digitAt n 3, digitAt n 2, digitAt n 1, '=']
  | a :: b :: c :: rest =>
    let n := a.toNat * 65536 + b.toNat * 256 + c.toNat
    digitAt n 3 :: digitAt n 2 :: digitAt n 1 :: digitAt n 0 :: encode rest

end Pagewise.Text.Base64
