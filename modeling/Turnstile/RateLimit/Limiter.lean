import Turnstile.Time
/-!
  A limiter that gives each key its own rate.

  Each key has a *theoretical arrival time*: the instant at which its next request would come if the
  client kept exactly to the rate.  A request may come early by a tolerance that grows with the
  allowed burst; one that comes earlier still is refused and told how long to wait.  An admitted
  request moves the arrival time on by one step, from itself or from the present, whichever is
  later.  A refused request changes nothing.

  A key whose arrival time lies far enough in the past behaves like a key that was never seen, so
  `Limiter.prune` forgets it.  Arrival times count from the instant at which the limiter was made.
-/

namespace Turnstile

/-- A rate with a burst, as distances between arrivals. -/
structure Quota where
  /-- The nanoseconds between two requests that keep to the rate. -/
  step : Nat
  /-- By how many nanoseconds a request may come before its theoretical time. -/
  tolerance : Nat
  deriving DecidableEq, Repr

/-- `rate` requests a second, of which `burst` may come at once; a burst of none counts as one. -/
def Quota.perSecond (rate burst : Nat) : Quota :=
  let step := max (Duration.second / rate) 1
  ⟨step, step * (max burst 1 - 1)⟩

/-- The arrival times of the keys that the limiter remembers. -/
structure Limiter where
  quota : Quota
  /-- The instant from which arrival times count. -/
  made : Nat
  arrivals : List (String × Nat)
  deriving DecidableEq, Repr

/-- What a limiter says to a request. -/
inductive Verdict where
  | admitted
  /-- Refused; a request after `wait` nanoseconds would be admitted. -/
  | refused (wait : Nat)
  deriving DecidableEq, Repr

namespace Limiter

/-- A limiter that has seen no key. -/
def create (quota : Quota) (now : Nat) : Limiter := ⟨quota, now, []⟩

/-- The arrival time that is remembered for a key. -/
def arrival? (l : Limiter) (key : String) : Option Nat :=
  (l.arrivals.find? fun e => e.1 == key).map (·.2)

/-- The arrival time of a key for a request at `at_`; a new key arrives when it is first seen. -/
def expected (l : Limiter) (key : String) (at_ : Nat) : Nat :=
  match l.arrival? key with
  | none => at_
  | some 0 => at_
  | some arrival => arrival

/-- Remembers an arrival time in place of the one before. -/
def remember (l : Limiter) (key : String) (arrival : Nat) : Limiter :=
  { l with arrivals := (key, arrival) :: l.arrivals.filter fun e => e.1 != key }

/-- Judges a request with the given key at `now`. -/
def check (l : Limiter) (key : String) (now : Nat) : Verdict × Limiter :=
  let at_ := now - l.made
  let arrival := l.expected key at_
  let earliest := arrival - l.quota.tolerance
  if at_ < earliest then (.refused (earliest - at_), l)
  else (.admitted, l.remember key (max arrival at_ + l.quota.step))

/-- Forgets the keys that behave like new ones. -/
def prune (l : Limiter) (now : Nat) : Limiter :=
  { l with arrivals := l.arrivals.filter fun e => now - l.made - l.quota.step < e.2 }

/-- How many keys are remembered. -/
def tracked (l : Limiter) : Nat := l.arrivals.length

/-- The whole seconds after which a refused client is told to come back, at least one. -/
def retryAfter (wait : Nat) : Nat := max (Duration.secs wait) 1

example : ((create (.perSecond 1000000000 2) 0).check "a" 0).1 = .admitted := by decide
example :
    let l := create (.perSecond 2 1) 100
    let (first, l) := l.check "a" 100
    let (second, l) := l.check "a" 101
    let (other, l) := l.check "b" 101
    (first, second, other, (l.prune 1000000100).tracked, (l.prune 1000000101).tracked) =
      (.admitted, .refused 499999999, .admitted, 1, 0) := by decide

end Limiter

end Turnstile
