import Pagewise.Binary64
import Pagewise.Document.Number
import Pagewise.Yaml.Scalar
import Pagewise.Yaml.Tag

/-!
What scalars mean. Whole numbers, null and the like are plain scalars of certain forms. Where no type
is asked for, a scalar has the type that its tag says, a plain one without a tag that of its form, and
any other one is text.
-/
namespace Pagewise.Yaml

/-! ### Forms of plain scalars -/

def isNull (text : String) : Bool := ["null", "Null", "NULL", "~"].contains text

def isBool (text : String) : Bool :=
  ["true", "True", "TRUE", "false", "False", "FALSE"].contains text

def numeral? (base : Nat) (cs : List Char) : Option Nat :=
  if cs.isEmpty then none
  else cs.foldlM (fun acc c => (Text.hexValue? c).bind fun d =>
    if d < base then some (base * acc + d) else none) 0

/-- Zeros at the front are for text, not for numbers. -/
def isPadded : List Char → Bool
  | '0' :: c :: rest => (c :: rest).all Char.isDigit
  | _ => false

def magnitude? (cs : List Char) : Option Nat :=
  match cs with
  | '0' :: 'x' :: rest => numeral? 16 rest
  | '0' :: 'o' :: rest => numeral? 8 rest
  | '0' :: 'b' :: rest => numeral? 2 rest
  | cs => if isPadded cs then none else numeral? 10 cs

def natural? (text : String) : Option Nat :=
  match text.toList with
  | '+' :: rest => magnitude? rest
  | cs => magnitude? cs

def negative? (text : String) : Option Nat :=
  match text.toList with
  | '-' :: rest => magnitude? rest
  | _ => none

def exponent? (cs : List Char) : Option Int :=
  match cs with
  | [] => some 0
  | e :: rest =>
    if e == 'e' || e == 'E' then
      match rest with
      | '-' :: ds => (numeral? 10 ds).map fun n => -n
      | '+' :: ds => (numeral? 10 ds).map fun n => n
      | ds => (numeral? 10 ds).map fun n => n
    else none

def isFinite (digits : Nat) (exponent : Int) : Bool :=
  if digits = 0 || exponent < 0 then
    (Binary64.nearest? false digits (Nat.pow 10 (-exponent).toNat)).isSome
  else exponent ≤ 400 && (Binary64.nearest? false (digits * Nat.pow 10 exponent.toNat) 1).isSome

def isReal (cs : List Char) : Bool :=
  let whole := cs.takeWhile Char.isDigit
  let rest := cs.dropWhile Char.isDigit
  let (fraction, rest) := match rest with
    | '.' :: rest => (rest.takeWhile Char.isDigit, rest.dropWhile Char.isDigit)
    | rest => ([], rest)
  let digits := whole ++ fraction
  !digits.isEmpty && (exponent? rest).any fun e =>
    -100000 < e && isFinite (Number.digitsValue digits) (e - fraction.length) || e ≤ -100000

def isSpecialReal (cs : List Char) : Bool :=
  [".inf", ".Inf", ".INF"].any fun s => s.toList == cs

def isFloat (text : String) : Bool :=
  match text.toList with
  | '+' :: rest | '-' :: rest => isSpecialReal rest || isReal rest
  | cs => isSpecialReal cs || [".nan", ".NaN", ".NAN"].contains text || isReal cs

def isPaddedText (text : String) : Bool :=
  match text.toList with
  | '+' :: rest | '-' :: rest => isPadded rest
  | cs => isPadded cs

/-- The value of a scalar, as far as it matters which type it has. -/
inductive Typed where
  | null
  | bool
  | natural (value : Nat)
  | negative
  | real
  | text (value : String)
  deriving DecidableEq, Repr

/-- Whole numbers beyond 64 bits have no value, up to 128 bits, where they end. -/
def typedNumber? (text : String) : Option (Option Typed) :=
  match natural? text, negative? text with
  | some n, _ =>
    if n < UInt64.size then some (some (.natural n))
    else if n < Nat.pow 2 128 then some none
    else none
  | none, some n =>
    if n ≤ Nat.pow 2 63 then some (some .negative)
    else if n ≤ Nat.pow 2 127 then some none
    else none
  | none, none => none

def typedPlain? (text : String) : Option Typed :=
  if text.isEmpty || isNull text then some .null
  else if isBool text then some .bool
  else match typedNumber? text with
    | some value => value
    | none => some (if !isPaddedText text && isFloat text then .real else .text text)

def typedScalar? (tag : Option Tag) (style : Style) (text : String) : Option Typed :=
  let untagged := if style = .plain then typedPlain? text else some (.text text)
  match tag with
  | none | some .illegible => untagged
  | some .null => if isNull text then some .null else none
  | some .bool => if isBool text then some .bool else none
  | some .int => (typedNumber? text).bind id
  | some .float => if isFloat text then some .real else none
  | some (.named _) => none
  | some .foreign => some (.text text)

end Pagewise.Yaml
