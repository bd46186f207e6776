import Pagewise.Json.Record
import Pagewise.Document.Basic

/-!
Rate limits. A limit allows a burst of requests and then one request in each interval. The limiter
remembers a single point in time: when the bucket would be full again, less one interval.
-/
namespace Pagewise

structure RateLimit where
  requestsPerSecond : Nat
  burst : Nat
  deriving DecidableEq, Repr

namespace RateLimit

instance : Inhabited RateLimit := ⟨⟨10, 10⟩⟩

def ofJson? (j : Json) : Option RateLimit := do
  let fields ← j.record? ["requests_per_second", "burst_size"] 0
  let count := fun name => Json.defaulted 10 (Json.toNatBelow? UInt32.size) (fields.lookup name)
  return ⟨← count "requests_per_second", ← count "burst_size"⟩

def toDocument (r : RateLimit) : Document :=
  .ofPairs [("requests_per_second", .ofNat r.requestsPerSecond), ("burst_size", .ofNat r.burst)]

def interval (r : RateLimit) : Nat := 1000000000 / max r.requestsPerSecond 1

def reach (r : RateLimit) : Nat := r.interval * max r.burst 1

end RateLimit

/-- A limiter: absent until the first request, `due` is the time after which the next request costs
nothing of the burst. -/
structure RateLimiter where
  limit : RateLimit
  due : Option Nat

namespace RateLimiter

def new (limit : RateLimit) : RateLimiter := ⟨limit, none⟩

def acquire (limiter : RateLimiter) (now : Nat) : Bool × RateLimiter :=
  let due := limiter.due.getD (now + limiter.limit.interval)
  if now < due - limiter.limit.reach then (false, limiter)
  else (true, { limiter with due := some (max due now + limiter.limit.interval) })

def write (_ : RateLimiter) : String := "RateLimiter \x7b .. \x7d"

end RateLimiter

end Pagewise
