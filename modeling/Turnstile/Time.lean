import Turnstile.Text.Blank
import Turnstile.Text.Numeral
/-!
  Instants and durations, in whole nanoseconds.

  Both are natural numbers: an instant counts from the start of the clock, and a duration is never
  negative.  `Duration` holds the functions on them.  A duration that is configured in seconds stays
  below `2^64` seconds, so a large period saturates and never wraps round to a shorter one
  (`TimeUnit.span_pos`).
-/

namespace Turnstile

namespace Duration

/-- One second. -/
def second : Nat := 1000000000

/-- One millisecond. -/
def millisecond : Nat := 1000000

/-- One microsecond. -/
def microsecond : Nat := 1000

/-- The longest time that a setting can ask for, in seconds. -/
def maxSeconds : Nat := 0xFFFFFFFFFFFFFFFF

/-- `n` seconds, at most `maxSeconds`. -/
def ofSeconds (n : Nat) : Nat := min n maxSeconds * second

/-- `n` milliseconds. -/
def ofMillis (n : Nat) : Nat := n * millisecond

/-- The whole seconds of a duration. -/
def secs (d : Nat) : Nat := d / second

/-- What is left beside the whole seconds. -/
def nanos (d : Nat) : Nat := d % second

/-- The whole milliseconds of a duration. -/
def millis (d : Nat) : Nat := d / millisecond

/-! ## Text

  A duration is shown in the largest unit of which it has at least one, with as many decimals as it
  needs. -/

/-- The decimals of `part / whole`, for a power of ten `whole` written with `width` zeros; empty
when there are none. -/
def decimals (width part : Nat) : String :=
  let digits := Nat.toDigits 10 part
  let padded := List.replicate (width - digits.length) '0' ++ digits
  match Text.dropEndWhile (· == '0') padded with
  | [] => ""
  | shown => "." ++ String.ofList shown

/-- A duration as log lines show it, such as `1.5ms`. -/
def text (d : Nat) : String :=
  if second ≤ d then toString (d / second) ++ decimals 9 (d % second) ++ "s"
  else if millisecond ≤ d then toString (d / millisecond) ++ decimals 6 (d % millisecond) ++ "ms"
  else if microsecond ≤ d then toString (d / microsecond) ++ decimals 3 (d % microsecond) ++ "µs"
  else toString d ++ "ns"

example : text 10000000000 = "10s" := by decide
example : text 1050000 = "1.05ms" := by decide
example : text 1001 = "1.001µs" := by decide
example : text 0 = "0ns" := by decide

end Duration

/-! ## Units -/

/-- A unit in which a period is configured. -/
inductive TimeUnit where
  | nanoseconds
  | microseconds
  | milliseconds
  | seconds
  | minutes
  | hours
  | days
  deriving DecidableEq, Repr

namespace TimeUnit

/-- All units, from the shortest to the longest. -/
def all : List TimeUnit :=
  [nanoseconds, microseconds, milliseconds, seconds, minutes, hours, days]

/-- The full name of a unit. -/
def name : TimeUnit → String
  | nanoseconds => "nanoseconds"
  | microseconds => "microseconds"
  | milliseconds => "milliseconds"
  | seconds => "seconds"
  | minutes => "minutes"
  | hours => "hours"
  | days => "days"

/-- The short name of a unit. -/
def symbol : TimeUnit → String
  | nanoseconds => "ns"
  | microseconds => "us"
  | milliseconds => "ms"
  | seconds => "s"
  | minutes => "m"
  | hours => "h"
  | days => "d"

/-- `n` of a unit.  Whole seconds saturate at `Duration.maxSeconds`. -/
def span (u : TimeUnit) (n : Nat) : Nat :=
  match u with
  | nanoseconds => n
  | microseconds => n * Duration.microsecond
  | milliseconds => n * Duration.millisecond
  | seconds => Duration.ofSeconds n
  | minutes => Duration.ofSeconds (n * 60)
  | hours => Duration.ofSeconds (n * 3600)
  | days => Duration.ofSeconds (n * 86400)

/-- A period of at least one unit lasts. -/
theorem span_pos (u : TimeUnit) {n : Nat} (h : 0 < n) : 0 < u.span n := by
  cases u <;>
    simp only [span, Duration.ofSeconds, Duration.maxSeconds, Duration.second,
      Duration.microsecond, Duration.millisecond] <;> omega

/-- The unit of a full or short name, in any case and with white space around it. -/
def parse? (s : String) : Option TimeUnit :=
  let given := String.ofList (Text.lower (Text.trim s.toList))
  all.find? fun u => given == u.symbol || given == u.name

/-- The unit of a name, or why there is none. -/
def parse (s : String) : Except String TimeUnit :=
  match parse? s with
  | some u => .ok u
  | none =>
    let given := String.ofList (Text.lower (Text.trim s.toList))
    .error (s!"unknown refill unit \x60{given}\x60 " ++
      "(expected nanoseconds, microseconds, milliseconds, seconds, minutes, hours or days)")

example : parse? " MiLLiseconds\n" = some milliseconds := by decide
example : parse? "m" = some minutes := by decide
example : parse? "sec" = none := by decide

end TimeUnit

end Turnstile
