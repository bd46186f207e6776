import Pagewise.Retry.Backoff

/-!
Delays between attempts as what they are without bounds on the numbers: the first delay as many
times as the backoff says, up to the cap. The products that do not fit are longer than any cap, so
where they stop cannot be seen, and neither can it in words for seconds and nanoseconds.
-/
namespace Pagewise

/-! ### Factors -/

namespace Backoff

def multiple (b : Backoff) (attempt : Nat) : Nat :=
  match b with
  | .constant => 1
  | .linear => min (attempt + 1) (UInt32.size - 1)
  | .exponential => min (Nat.pow 2 attempt) (UInt32.size - 1)

theorem factor_eq (b : Backoff) (attempt : UInt32) :
    b.factor attempt = b.multiple attempt.toNat := by
  cases b with
  | constant => rfl
  | linear => rfl
  | exponential =>
    change (if attempt.toNat < 32 then Nat.pow 2 attempt.toNat else UInt32.size - 1) =
      min (Nat.pow 2 attempt.toNat) (UInt32.size - 1)
    split
    · next few =>
      have small : Nat.pow 2 attempt.toNat ≤ Nat.pow 2 31 :=
        Nat.pow_le_pow_right (by omega) (by omega)
      have fits : Nat.pow 2 31 ≤ UInt32.size - 1 := by decide
      omega
    · next many =>
      have large : Nat.pow 2 32 ≤ Nat.pow 2 attempt.toNat :=
        Nat.pow_le_pow_right (by omega) (by omega)
      have beyond : UInt32.size - 1 ≤ Nat.pow 2 32 := by decide
      omega

theorem multiple_mono (b : Backoff) {m n : Nat} (h : m ≤ n) : b.multiple m ≤ b.multiple n := by
  cases b with
  | constant => exact Nat.le_refl 1
  | linear =>
    simp only [multiple]
    omega
  | exponential =>
    have grows : Nat.pow 2 m ≤ Nat.pow 2 n := Nat.pow_le_pow_right (by omega) h
    simp only [multiple]
    omega

end Backoff

/-! ### Words -/

def wordOrLast (number : Nat) (word : UInt32) : UInt32 :=
  if number < UInt32.size then word else .ofNat (UInt32.size - 1)

theorem toNat_wordOrLast {number : Nat} {word : UInt32} (is : word.toNat = number % UInt32.size) :
    (wordOrLast number word).toNat = min number (UInt32.size - 1) := by
  rw [wordOrLast]
  split
  · next fits =>
    rw [is, Nat.mod_eq_of_lt fits]
    omega
  · next beyond =>
    change UInt32.size - 1 = _
    omega

def doublings : Nat → UInt32
  | 0 => 1
  | n + 1 => wordOrLast ((doublings n).toNat * 2) (doublings n * 2)

theorem toNat_doublings (n : Nat) :
    (doublings n).toNat = min (Nat.pow 2 n) (UInt32.size - 1) := by
  induction n with
  | zero => rfl
  | succ n ih =>
    have doubled : Nat.pow 2 (n + 1) = Nat.pow 2 n * 2 := rfl
    have many : 1 < UInt32.size := by decide
    have word : (doublings n * 2).toNat = (doublings n).toNat * 2 % UInt32.size :=
      UInt32.toNat_mul _ 2
    rw [doublings, toNat_wordOrLast word, ih, doubled]
    omega

def Backoff.word (b : Backoff) (attempt : UInt32) : UInt32 :=
  match b with
  | .constant => 1
  | .linear => wordOrLast (attempt.toNat + 1) (attempt + 1)
  | .exponential => doublings attempt.toNat

theorem Backoff.toNat_word (b : Backoff) (attempt : UInt32) :
    (b.word attempt).toNat = b.multiple attempt.toNat := by
  cases b with
  | constant => rfl
  | linear => exact toNat_wordOrLast (UInt32.toNat_add attempt 1)
  | exponential => exact toNat_doublings attempt.toNat

/-- A length of time in words: whole seconds, and the nanoseconds of the next one. -/
structure Clock where
  seconds : UInt64
  nanos : UInt32
  within : nanos.toNat < Duration.second

namespace Clock

def nanoseconds (c : Clock) : Nat := c.seconds.toNat * Duration.second + c.nanos.toNat

def longest : Clock := ⟨.ofNat (UInt64.size - 1), .ofNat (Duration.second - 1), by decide⟩

def ofDuration (d : Duration) : Clock where
  seconds := .ofNat (d.nanoseconds / Duration.second)
  nanos := .ofNat (d.nanoseconds % Duration.second)
  within := by
    have below := Nat.mod_lt d.nanoseconds (show 0 < Duration.second by decide)
    have fits : Duration.second < UInt32.size := by decide
    rw [UInt32.toNat_ofNat_of_lt' (by omega)]
    exact below

theorem nanoseconds_ofDuration (d : Duration) : (ofDuration d).nanoseconds = d.nanoseconds := by
  have bounded := d.le_longest
  have below := Nat.mod_lt d.nanoseconds (show 0 < Duration.second by decide)
  have parts := Nat.div_add_mod d.nanoseconds Duration.second
  simp only [Duration.longest, Duration.second, UInt64.size] at bounded below parts
  rw [nanoseconds, ofDuration, UInt64.toNat_ofNat_of_lt', UInt32.toNat_ofNat_of_lt']
  · simp only [Duration.second]
    omega
  · simp only [Duration.second, UInt32.size]
    omega
  · simp only [Duration.second, UInt64.size]
    omega

/-! ### Several times a length -/

def product (c : Clock) (k : UInt32) : UInt64 := c.nanos.toUInt64 * k.toUInt64

theorem toNat_product (c : Clock) (k : UInt32) :
    (c.product k).toNat = c.nanos.toNat * k.toNat := by
  have small : c.nanos.toNat * k.toNat < 2 ^ 32 * 2 ^ 32 :=
    Nat.mul_lt_mul'' c.nanos.toNat_lt k.toNat_lt
  rw [product, UInt64.toNat_mul, UInt32.toNat_toUInt64, UInt32.toNat_toUInt64]
  exact Nat.mod_eq_of_lt small

def rest (c : Clock) (k : UInt32) : UInt32 := (c.product k % 1000000000).toUInt32

def carry (c : Clock) (k : UInt32) : UInt64 := c.product k / 1000000000

theorem toNat_rest (c : Clock) (k : UInt32) :
    (c.rest k).toNat = c.nanos.toNat * k.toNat % Duration.second := by
  have below := Nat.mod_lt (c.product k).toNat (show 0 < Duration.second by decide)
  have fits : Duration.second < 2 ^ 32 := by decide
  have billion : (1000000000 : UInt64).toNat = Duration.second := rfl
  rw [rest, UInt64.toNat_toUInt32, UInt64.toNat_mod, billion, Nat.mod_eq_of_lt (by omega),
    toNat_product]

theorem toNat_carry (c : Clock) (k : UInt32) :
    (c.carry k).toNat = c.nanos.toNat * k.toNat / Duration.second := by
  have billion : (1000000000 : UInt64).toNat = Duration.second := rfl
  rw [carry, UInt64.toNat_div, billion, toNat_product]

theorem rest_within (c : Clock) (k : UInt32) : (c.rest k).toNat < Duration.second := by
  rw [toNat_rest]
  exact Nat.mod_lt _ (by decide)

def times? (c : Clock) (k : UInt32) : Option Clock :=
  if c.seconds.toNat * k.toNat < UInt64.size then
    if (c.seconds * k.toUInt64).toNat + (c.carry k).toNat < UInt64.size then
      some ⟨c.seconds * k.toUInt64 + c.carry k, c.rest k, c.rest_within k⟩
    else none
  else none

def times (c : Clock) (k : UInt32) : Clock := (c.times? k).getD longest

theorem nanoseconds_mul (c : Clock) (k : UInt32) :
    c.nanoseconds * k.toNat =
      (c.seconds.toNat * k.toNat + (c.carry k).toNat) * Duration.second + (c.rest k).toNat := by
  have parts := Nat.div_add_mod' (c.nanos.toNat * k.toNat) Duration.second
  rw [toNat_carry, toNat_rest, nanoseconds, Nat.add_mul, Nat.mul_right_comm, Nat.add_mul,
    Nat.add_assoc, parts]

theorem nanoseconds_times (c : Clock) (k : UInt32) :
    (c.times k).nanoseconds = min (c.nanoseconds * k.toNat) Duration.longest := by
  have within := c.rest_within k
  have longest_eq : longest.nanoseconds = Duration.longest := rfl
  rw [nanoseconds_mul, times, times?]
  have word : c.seconds.toNat * k.toNat < UInt64.size →
      (c.seconds * k.toUInt64).toNat = c.seconds.toNat * k.toNat := by
    intro fits
    rw [UInt64.toNat_mul, UInt32.toNat_toUInt64, Nat.mod_eq_of_lt fits]
  generalize c.seconds.toNat * k.toNat = seconds at word ⊢
  split
  · next fits =>
    rw [word fits]
    split
    · next fits' =>
      have sum : (c.seconds * k.toUInt64 + c.carry k).toNat = seconds + (c.carry k).toNat := by
        rw [UInt64.toNat_add, word fits, Nat.mod_eq_of_lt fits']
      rw [Option.getD_some, nanoseconds, sum]
      simp only [Duration.longest, Duration.second, UInt64.size] at within fits' ⊢
      omega
    · next beyond =>
      rw [Option.getD_none, longest_eq]
      simp only [Duration.longest, Duration.second, UInt64.size] at beyond ⊢
      omega
  · next beyond =>
    rw [Option.getD_none, longest_eq]
    simp only [Duration.longest, Duration.second, UInt64.size] at beyond ⊢
    omega

/-! ### The shorter of two -/

def before (c d : Clock) : Bool :=
  c.seconds < d.seconds || (c.seconds == d.seconds && c.nanos < d.nanos)

def atMost (c bound : Clock) : Clock := if bound.before c then bound else c

theorem before_iff (c d : Clock) : c.before d = true ↔ c.nanoseconds < d.nanoseconds := by
  have within := c.within
  have within' := d.within
  rw [before, Bool.or_eq_true, Bool.and_eq_true, decide_eq_true_iff, beq_iff_eq,
    decide_eq_true_iff, UInt64.lt_iff_toNat_lt, UInt32.lt_iff_toNat_lt, ← UInt64.toNat_inj,
    nanoseconds, nanoseconds]
  simp only [Duration.second] at within within' ⊢
  omega

theorem nanoseconds_atMost (c bound : Clock) :
    (c.atMost bound).nanoseconds = min c.nanoseconds bound.nanoseconds := by
  rw [atMost]
  split
  · next shorter =>
    have := (before_iff bound c).1 shorter
    omega
  · next not_shorter =>
    have := mt (before_iff bound c).2 not_shorter
    omega

end Clock

/-! ### Delays -/

namespace RetryPolicy

def clock (p : RetryPolicy) (attempt : UInt32) : Clock :=
  ((Clock.ofDuration p.initial).times (p.backoff.word attempt)).atMost (Clock.ofDuration p.cap)

/-- A product that does not fit is longer than any cap, as is the length in its place. -/
theorem nanoseconds_delay (p : RetryPolicy) (attempt : UInt32) :
    (p.delay attempt).nanoseconds =
      min (p.initial.nanoseconds * p.backoff.multiple attempt.toNat) p.cap.nanoseconds := by
  have bounded := p.cap.le_longest
  rw [delay, Duration.nanoseconds_atMost, Duration.times, Duration.nanoseconds_clamp,
    Backoff.factor_eq, Nat.min_assoc, Nat.min_eq_right bounded]

theorem nanoseconds_clock (p : RetryPolicy) (attempt : UInt32) :
    (p.clock attempt).nanoseconds = (p.delay attempt).nanoseconds := by
  have bounded := p.cap.le_longest
  rw [nanoseconds_delay, clock, Clock.nanoseconds_atMost, Clock.nanoseconds_times,
    Clock.nanoseconds_ofDuration, Clock.nanoseconds_ofDuration, Backoff.toNat_word, Nat.min_assoc,
    Nat.min_eq_right bounded]

/-- The delay of every attempt is that of numbers without bounds: the first delay times the factor,
or the cap if that is less. So it is never above the cap and never less than that of an attempt
before, and it is the same in words. -/
theorem delay_exact (p : RetryPolicy) :
    (∀ attempt,
      (p.delay attempt).nanoseconds =
        min (p.initial.nanoseconds * p.backoff.multiple attempt.toNat) p.cap.nanoseconds ∧
      (p.delay attempt).nanoseconds ≤ p.cap.nanoseconds ∧
      (p.clock attempt).nanoseconds = (p.delay attempt).nanoseconds) ∧
    ∀ before after, before ≤ after →
      (p.delay before).nanoseconds ≤ (p.delay after).nanoseconds := by
  constructor
  · intro attempt
    refine ⟨p.nanoseconds_delay attempt, ?_, p.nanoseconds_clock attempt⟩
    rw [nanoseconds_delay]
    exact Nat.min_le_right _ _
  · intro before after later
    have factors : p.backoff.multiple before.toNat ≤ p.backoff.multiple after.toNat :=
      p.backoff.multiple_mono (UInt32.le_iff_toNat_le.1 later)
    have products : p.initial.nanoseconds * p.backoff.multiple before.toNat ≤
        p.initial.nanoseconds * p.backoff.multiple after.toNat := Nat.mul_le_mul_left _ factors
    rw [nanoseconds_delay, nanoseconds_delay]
    omega

theorem delay_exact_longest :
    let p : RetryPolicy := ⟨5, .exponential, .clamp Duration.longest, .ofSeconds 30⟩
    (p.delay 3).nanoseconds ≤ (p.delay 40).nanoseconds ∧
      (p.clock 40).nanoseconds = 30000000000 := by
  intro p
  obtain ⟨exact_at, increasing⟩ := p.delay_exact
  obtain ⟨_, _, words⟩ := exact_at 40
  exact ⟨increasing 3 40 (by decide), words.trans (by decide)⟩

end RetryPolicy

end Pagewise
