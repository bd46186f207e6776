import Pagewise.Text.Hexadecimal
import Pagewise.Text.Utf8

/-!
Percent-encoding: a byte as `%` and two hexadecimal digits. Each part of a URL has its own set of
characters that may not stand for themselves; beyond ASCII none may.
-/
namespace Pagewise.Percent

def upperHex (n : Nat) : Char := if n < 10 then Char.ofNat (48 + n) else Char.ofNat (55 + n)

def escapeByte (b : UInt8) : List Char := ['%', upperHex (b.toNat / 16), upperHex (b.toNat % 16)]

def encode (special : Char → Bool) (cs : List Char) : List Char :=
  cs.flatMap fun c =>
    if c.toNat < 128 && !special c then [c]
    else (Text.Utf8.encode c.toString).flatMap escapeByte

def decode : List Char → List UInt8
  | [] => []
  | '%' :: a :: b :: rest =>
    match Text.hexValue? a, Text.hexValue? b with
    | some x, some y => UInt8.ofNat (16 * x + y) :: decode rest
    | _, _ => 37 :: decode (a :: b :: rest)
  | c :: rest => Text.Utf8.encode c.toString ++ decode rest

/-! ### Sets -/

def isControl (c : Char) : Bool := c < ' ' || c.toNat == 127

def inFragment (c : Char) : Bool := isControl c || " \"<>`".contains c

def inPath (c : Char) : Bool := inFragment c || "#?\x7b\x7d".contains c

def inQuery (c : Char) : Bool := isControl c || " \"#<>".contains c

def inSpecialQuery (c : Char) : Bool := inQuery c || c == '\''

def inCredentials (c : Char) : Bool := inPath c || "/:;=@[\\]^|".contains c

end Pagewise.Percent
