import Turnstile.Time
/-!
  Token buckets that are refilled at fixed intervals.

  A bucket starts full.  Every admission takes one token; at the end of every interval a fixed
  number of tokens is added at once, and what exceeds the capacity is lost.  Nothing is added inside
  an interval.

  No clock drives the refill.  Instead `Bucket.credit` looks, at each call, how many whole intervals
  have ended since the start of the current one, and credits all of them together; the start then
  moves by a multiple of the interval, so that the boundaries stay where the creation of the bucket
  put them.  The calls bring their own instants, which need not be in order: an instant before the
  start of the current interval credits nothing.  Only where the intervals add up to `2^64`
  nanoseconds or more does the current one begin at the call itself.

  A bucket without capacity, or to which nothing is added, is never refilled.
-/

namespace Turnstile

/-- The settings of a token bucket. -/
structure ThrottleSettings where
  /-- The most tokens that the bucket holds. -/
  capacity : UInt32
  /-- The tokens added at the end of each interval. -/
  refillTokens : UInt32
  /-- The length of the interval, in `refillUnit`. -/
  refillPeriod : UInt64
  refillUnit : TimeUnit
  deriving DecidableEq, Repr

namespace ThrottleSettings

/-- Five requests at once, and one more every ten seconds. -/
def standard : ThrottleSettings := ⟨5, 1, 10, .seconds⟩

/-- The interval between two refills, in nanoseconds. -/
def interval (s : ThrottleSettings) : Nat := s.refillUnit.span s.refillPeriod.toNat

end ThrottleSettings

/-- Why settings make no bucket. -/
inductive ThrottleError where
  /-- Tokens are added, but the interval has no length. -/
  | zeroPeriod
  deriving DecidableEq, Repr

def ThrottleError.message : ThrottleError → String
  | .zeroPeriod => "refill period must be greater than 0 when refill tokens are configured"

/-- How a bucket regains tokens. -/
inductive Refill where
  | never
  /-- `amount` tokens every `interval` nanoseconds; the current interval began at `since`. -/
  | every (amount interval since : Nat)
  deriving DecidableEq, Repr

/-- A token bucket. -/
structure Bucket where
  capacity : Nat
  tokens : Nat
  refill : Refill
  deriving DecidableEq, Repr

namespace Bucket

/-- A full bucket, made at `now`. -/
def create (s : ThrottleSettings) (now : Nat) : Except ThrottleError Bucket :=
  if s.capacity = 0 ∨ s.refillTokens = 0 then .ok ⟨s.capacity.toNat, s.capacity.toNat, .never⟩
  else if s.interval = 0 then .error .zeroPeriod
  else .ok ⟨s.capacity.toNat, s.capacity.toNat, .every s.refillTokens.toNat s.interval now⟩

/-- Whether taken tokens ever come back. -/
def refills (b : Bucket) : Bool :=
  match b.refill with
  | .never => false
  | .every .. => true

/-- The longest time by which the start of an interval is moved. -/
def maxAdvance : Nat := 0xFFFFFFFFFFFFFFFF

/-- The start of the interval that is current after whole intervals of `span` nanoseconds
together. -/
def nextStart (since span now : Nat) : Nat := if span ≤ maxAdvance then since + span else now

/-- Credits every interval that has ended by `now`. -/
def credit (b : Bucket) (now : Nat) : Bucket :=
  match b.refill with
  | .never => b
  | .every amount interval since =>
    let elapsed := now - since
    if interval ≤ elapsed then
      let ended := elapsed / interval
      { b with
        tokens := min (b.tokens + ended * amount) b.capacity
        refill := .every amount interval (nextStart since (ended * interval) now) }
    else b

/-- Takes one token as of `now`; whether there was one, and the bucket after it. -/
def take (b : Bucket) (now : Nat) : Bool × Bucket :=
  let c := b.credit now
  if c.tokens = 0 then (false, c) else (true, { c with tokens := c.tokens - 1 })

/-- The answers to calls at the given instants, and the bucket after them. -/
def run (b : Bucket) : List Nat → List Bool × Bucket
  | [] => ([], b)
  | now :: r =>
    let (admitted, c) := b.take now
    let (answers, d) := c.run r
    (admitted :: answers, d)

/-- How many calls are admitted, counting on from `n`, and the bucket after them. -/
def countFrom (n : Nat) (b : Bucket) : List Nat → Nat × Bucket
  | [] => (n, b)
  | now :: r => countFrom (if (b.take now).1 then n + 1 else n) (b.take now).2 r

/-- How many of the calls at the given instants are admitted, and the bucket after them. -/
def admitted (b : Bucket) (calls : List Nat) : Nat × Bucket := b.countFrom 0 calls

theorem countFrom_eq_run (n : Nat) (b : Bucket) (calls : List Nat) :
    countFrom n b calls = (n + (b.run calls).1.count true, (b.run calls).2) := by
  induction calls generalizing n b with
  | nil => simp [countFrom, run]
  | cons now r ih =>
    rw [countFrom, ih, run]
    cases h : (b.take now).1 <;> simp [h, Nat.add_assoc, Nat.add_comm 1]

/-- Counting the admissions agrees with listing the answers. -/
theorem admitted_eq_run (b : Bucket) (calls : List Nat) :
    b.admitted calls = ((b.run calls).1.count true, (b.run calls).2) := by
  simp [admitted, countFrom_eq_run]

/-- What a bucket is, for messages. -/
def text (b : Bucket) : String :=
  s!"TokenBucket \x7b capacity: {b.capacity}, refills: {b.refills} \x7d"

example : ((create ⟨2, 1, 10, .nanoseconds⟩ 0).map fun b => (b.run [0, 0, 9, 10, 35, 35]).1) =
    .ok [true, true, false, true, true, true] := rfl
example : create ⟨1, 1, 0, .days⟩ 0 = .error .zeroPeriod := by cbv
example : create ⟨0, 1, 0, .days⟩ 0 = .ok ⟨0, 0, .never⟩ := rfl

end Bucket

end Turnstile
