import Pagewise.Http.Header
import Pagewise.Product
import Pagewise.RateLimit
import Pagewise.Retry.Backoff
import Pagewise.Text.Quoted

/-!
Settings of the client: as they are configured, and as the client takes them.
-/
namespace Pagewise

structure HttpSettings where
  timeoutSeconds : Nat
  maxRetries : UInt32
  backoff : Backoff
  initialBackoffMs : Nat
  maxBackoffMs : Nat
  rateLimit : Option RateLimit
  headers : Table String

namespace HttpSettings

def defaultTimeoutSeconds : Nat := 30

def defaultMaxRetries : Nat := 3

def defaultInitialBackoffMs : Nat := 100

def defaultMaxBackoffMs : Nat := 60000

instance : Inhabited HttpSettings :=
  ⟨⟨defaultTimeoutSeconds, .ofNat defaultMaxRetries, default, defaultInitialBackoffMs,
    defaultMaxBackoffMs, none, .empty⟩⟩

def fieldNames : List String :=
  ["timeout_secs", "max_retries", "backoff", "initial_backoff_ms", "max_backoff_ms", "rate_limit",
    "headers"]

def headersOfJson? (j : Json) : Option (Table String) :=
  (j.toMembersOf? Json.toString?).map Table.ofList

open Json in
def ofJson? (j : Json) : Option HttpSettings := do
  let fields ← j.record? fieldNames 0
  let count := fun name bound default => defaulted default (toNatBelow? bound) (fields.lookup name)
  return ⟨← count "timeout_secs" UInt64.size defaultTimeoutSeconds,
    .ofNat (← count "max_retries" UInt32.size defaultMaxRetries),
    ← defaulted default Backoff.ofJson? (fields.lookup "backoff"),
    ← count "initial_backoff_ms" UInt64.size defaultInitialBackoffMs,
    ← count "max_backoff_ms" UInt64.size defaultMaxBackoffMs,
    ← optional RateLimit.ofJson? (fields.lookup "rate_limit"),
    ← defaulted .empty headersOfJson? (fields.lookup "headers")⟩

def textsToDocument (t : Table String) : Document :=
  .ofPairs (t.entries.map fun e => (e.1, .string e.2))

def toDocument (s : HttpSettings) : Document :=
  .ofPairs [("timeout_secs", .ofNat s.timeoutSeconds), ("max_retries", .ofNat s.maxRetries.toNat),
    ("backoff", .string s.backoff.name), ("initial_backoff_ms", .ofNat s.initialBackoffMs),
    ("max_backoff_ms", .ofNat s.maxBackoffMs),
    ("rate_limit", .ofOption (s.rateLimit.map RateLimit.toDocument)),
    ("headers", textsToDocument s.headers)]

end HttpSettings

structure ClientSettings where
  timeout : Duration
  retry : RetryPolicy
  rateLimit : Option RateLimit
  headers : Table String
  agent : String

namespace ClientSettings

instance : Inhabited ClientSettings :=
  ⟨⟨.ofSeconds 30, ⟨3, default, .ofMilliseconds 100, .ofSeconds 20⟩, some default, .empty,
    Product.agent⟩⟩

def timeoutMilliseconds (s : ClientSettings) : Nat := min s.timeout.milliseconds (UInt64.size - 1)

/-! ### Written form -/

def bracesOf (fields : List String) : String :=
  if fields.isEmpty then "\x7b\x7d" else "\x7b " ++ ", ".intercalate fields ++ " \x7d"

def writeBackoff : Backoff → String
  | .constant => "Constant"
  | .linear => "Linear"
  | .exponential => "Exponential"

def writeRateLimit (r : RateLimit) : String :=
  "RateLimiterConfig " ++ bracesOf ["requests_per_second: " ++ toString r.requestsPerSecond,
    "burst_size: " ++ toString r.burst]

def writeHeaders (t : Table String) : String :=
  let entry := fun (e : String × String) =>
    Text.Quoted.encode e.1 ++ ": " ++ Text.Quoted.encode e.2
  "\x7b" ++ ", ".intercalate (t.entries.map entry) ++ "\x7d"

def write (s : ClientSettings) : String :=
  "HttpClientConfig " ++ bracesOf ["timeout: " ++ s.timeout.write,
    "max_retries: " ++ toString s.retry.maxRetries.toNat,
    "initial_backoff: " ++ s.retry.initial.write, "max_backoff: " ++ s.retry.cap.write,
    "backoff_type: " ++ writeBackoff s.retry.backoff,
    "rate_limit: " ++ (match s.rateLimit with
      | some r => "Some(" ++ writeRateLimit r ++ ")"
      | none => "None"),
    "default_headers: " ++ writeHeaders s.headers, "user_agent: " ++ Text.Quoted.encode s.agent]

end ClientSettings

/-- What the client takes from configured settings; without a configured rate limit there is none.
The headers are handed on in the order of their table; a copy of it can have any other order, and what
this changes is told of all `Config.Reordered`. -/
def HttpSettings.toClient (s : HttpSettings) : ClientSettings where
  timeout := .ofSeconds s.timeoutSeconds
  retry := ⟨s.maxRetries, s.backoff, .ofMilliseconds s.initialBackoffMs,
    .ofMilliseconds s.maxBackoffMs⟩
  rateLimit := s.rateLimit
  headers := s.headers
  agent := Product.agent

end Pagewise
