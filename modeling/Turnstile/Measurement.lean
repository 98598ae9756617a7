import Turnstile.Text.Json
import Turnstile.Text.Order
import Turnstile.Time
/-!
  What the gateway measures, and how the measurements are summed up.

  A measurement is an event.  The report of some events has one series for each name and labelling
  that occurs: for the counters, how many events there are; for durations, the durations in the
  order in which they were measured.
-/

namespace Turnstile

/-- One event that is measured. -/
inductive Measurement where
  /-- A request found the bucket of a route empty. -/
  | throttled (route : String)
  /-- A request was refused by a limiter that counts by the named rule. -/
  | rateLimited (rule : String)
  /-- No answer came from a destination. -/
  | destinationFailed (kind : String)
  /-- A request was finished after some nanoseconds, with the status shown. -/
  | finished (method status : String) (elapsed : Nat)
  deriving DecidableEq, Repr

namespace Measurement

/-- The name of the series to which an event belongs. -/
def series : Measurement → String
  | throttled _ => "gateway_requests_throttled_total"
  | rateLimited _ => "gateway_requests_rate_limited_total"
  | destinationFailed _ => "gateway_upstream_failures_total"
  | finished .. => "gateway_request_duration_seconds"

/-- The labels of the series to which an event belongs. -/
def labels : Measurement → List (String × String)
  | throttled route => [("route", route)]
  | rateLimited rule => [("resolver", rule)]
  | destinationFailed kind => [("kind", kind)]
  | finished method status _ => [("method", method), ("status", status)]

/-- Whether two events belong to one series. -/
def sameSeries (a b : Measurement) : Bool := a.series == b.series && a.labels == b.labels

/-- The duration that an event carries. -/
def elapsed? : Measurement → Option Nat
  | finished _ _ elapsed => some elapsed
  | _ => none

end Measurement

/-- What the events of one series amount to. -/
inductive Total where
  | count (n : Nat)
  | durations (elapsed : List Nat)
  deriving DecidableEq, Repr

/-- One line of a report. -/
structure Series where
  name : String
  labels : List (String × String)
  total : Total
  deriving DecidableEq, Repr

namespace Measurement

/-- The sum of the events that belong to the series of `m`. -/
def total (events : List Measurement) (m : Measurement) : Total :=
  let own := events.filter m.sameSeries
  match m.elapsed? with
  | none => .count own.length
  | some _ => .durations (own.filterMap elapsed?)

/-- Events of one counter that belong to one series are equal. -/
theorem sameSeries_iff {m : Measurement} (hm : m.elapsed? = none) (other : Measurement) :
    m.sameSeries other = true ↔ other = m := by
  unfold sameSeries
  cases m with
  | throttled route =>
    cases other with
    | throttled own => simpa [series, labels] using eq_comm
    | _ => simp [series, labels]
  | rateLimited rule =>
    cases other with
    | rateLimited own => simpa [series, labels] using eq_comm
    | _ => simp [series, labels]
  | destinationFailed kind =>
    cases other with
    | destinationFailed own => simpa [series, labels] using eq_comm
    | _ => simp [series, labels]
  | finished method status elapsed => cases hm

/-- **The total** of a counter is the number of its events. -/
theorem total_eq_count {m : Measurement} (hm : m.elapsed? = none) (events : List Measurement) :
    total events m = .count (events.count m) := by
  have hown : events.filter m.sameSeries = events.filter (· == m) := by
    refine List.filter_congr fun other _ => ?_
    rw [Bool.eq_iff_iff, sameSeries_iff hm, beq_iff_eq]
  unfold total
  rw [hm, hown, List.count, List.countP_eq_length_filter]

/-- The first event of each series. -/
def representatives : List Measurement → List Measurement
  | [] => []
  | m :: r => m :: (representatives r).filter fun other => !m.sameSeries other

/-- The text that orders the lines of a report: name and labels as JSON.  So a quote, with which a
label ends, counts as much as the characters of a longer label. -/
def sortText (m : Measurement) : String :=
  Json.text (.array [.string m.series, .object (m.labels.map fun (k, v) => (k, .string v))])

/-- The report of some events, by name and labels. -/
def report (events : List Measurement) : List Series :=
  (Text.sortBy sortText (representatives events)).map fun m =>
    ⟨m.series, m.labels, total events m⟩

/-- A duration in seconds, as a floating-point number: the whole seconds and the rest are converted
each for itself. -/
def seconds (elapsed : Nat) : Float :=
  (UInt64.ofNat (Duration.secs elapsed)).toFloat +
    (UInt64.ofNat (Duration.nanos elapsed)).toFloat / 1e9

example : (report [throttled "a", throttled "a\n", throttled "a!", throttled "aB"]).map (·.labels) =
    [[("route", "a!")], [("route", "a")], [("route", "aB")], [("route", "a\n")]] := by
  decide +kernel
example : report [throttled "b", throttled "a", throttled "b"] =
    [⟨"gateway_requests_throttled_total", [("route", "a")], .count 1⟩,
     ⟨"gateway_requests_throttled_total", [("route", "b")], .count 2⟩] := by decide +kernel

end Measurement

end Turnstile
