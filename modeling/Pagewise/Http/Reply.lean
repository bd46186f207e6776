import Pagewise.Document.Printer
import Pagewise.Error
import Pagewise.Text.Blank
import Pagewise.Text.Utf8

/-!
What an attempt comes to: a document, or an error that says whether another attempt makes sense.
-/
namespace Pagewise

inductive Fault where
  | closed
  | silence
  deriving DecidableEq, Repr

structure Reply where
  status : Nat
  headers : List (String × String)
  body : List UInt8
  fault : Option Fault

namespace Reply

def isVisible (c : Char) : Bool := c == '\t' || (' ' ≤ c && c ≤ '~')

def waitOf? (value : String) : Option Nat :=
  if value.toList.all isVisible then Number.natural? UInt64.size (Text.trim value.toList) else none

/-- Seconds to wait from the first `Retry-After` field; one if it says nothing. -/
def retryAfter (r : Reply) : Nat :=
  let field := r.headers.find? fun h => h.1.toList.map Char.toLower == "retry-after".toList
  (field.bind fun h => waitOf? h.2).getD 1

def isSuccess (status : Nat) : Bool := 200 ≤ status && status < 300

def isBodiless (status : Nat) : Bool := status == 101 || status == 204 || status == 304

def isStatus (status : Nat) : Bool := 100 ≤ status && status < 1000

/-- Replies of these kinds announce another one, which does not come. -/
def isInterim (status : Nat) : Bool := 100 ≤ status && status < 200 && status != 101

def isBlankByte (b : UInt8) : Bool := b == 32 || b == 9 || b == 10 || b == 12 || b == 13

/-- The document of a complete body; a blank body stands for the empty object. -/
def document (body : List UInt8) : Except Error Document :=
  if body.all isBlankByte then .ok .emptyObject
  else match (Text.Utf8.decode? body).bind Document.parse with
    | some d => .ok d
    | none => .error (.malformedJson "no JSON document")

def faultError (limit : Nat) : Fault → Error
  | .closed => .connection "connection closed"
  | .silence => .timeout limit

def outcome (limit : Nat) (r : Reply) : Except Error Document :=
  let body := if isBodiless r.status then [] else r.body
  let fault := if isBodiless r.status then none else r.fault
  if !isStatus r.status then .error (faultError limit .closed)
  else if isInterim r.status then .error (faultError limit (r.fault.getD .closed))
  else if r.status = 429 then .error (.rateLimited r.retryAfter)
  else if !isSuccess r.status then
    .error (.status r.status (if fault.isSome then "" else Text.Utf8.decodeLossy body))
  else match fault with
    | some f => .error (faultError limit f)
    | none => document body

end Reply

/-- The fate of an attempt: a reply, or a fault before there is one. The transport follows redirects
that name a place, so a reply is the one at the end of them. -/
inductive Answer where
  | reply (r : Reply)
  | none (f : Fault)

def Answer.outcome (limit : Nat) : Answer → Except Error Document
  | .reply r => r.outcome limit
  | .none f => .error (Reply.faultError limit f)

end Pagewise
