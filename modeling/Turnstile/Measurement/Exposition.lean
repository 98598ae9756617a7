import Turnstile.Measurement
import Turnstile.Text.Json
/-!
  Running totals of what is measured, and the text in which they are served.

  A gateway that runs for long does not keep every event: a tally holds how many events of a series
  there were and how long they took together.  The text has one line for each number, under a line
  for each name.
-/

namespace Turnstile

/-- What the events of one series amount to so far. -/
structure Tally where
  /-- One of the events. -/
  event : Measurement
  count : Nat
  /-- The durations together, in nanoseconds. -/
  elapsed : Nat
  deriving DecidableEq, Repr

namespace Tally

/-- Counts one more event. -/
def add (tallies : List Tally) (m : Measurement) : List Tally :=
  match tallies with
  | [] => [⟨m, 1, m.elapsed?.getD 0⟩]
  | t :: rest =>
    if m.sameSeries t.event then
      ⟨t.event, t.count + 1, t.elapsed + m.elapsed?.getD 0⟩ :: rest
    else t :: add rest m

/-- Counts several events. -/
def addAll (tallies : List Tally) (events : List Measurement) : List Tally :=
  events.foldl add tallies

/-- The labels of a series in braces. -/
def labelText (m : Measurement) : String :=
  "\x7b" ++ ",".intercalate (m.labels.map fun (name, v) => name ++ "=" ++ Json.quote v) ++ "\x7d"

/-- A duration in seconds, with as many decimals as it needs. -/
def secondsText (elapsed : Nat) : String :=
  toString (Duration.secs elapsed) ++ Duration.decimals 9 (Duration.nanos elapsed)

/-- The lines of a tally: a counter has one, and durations have their sum and their number. -/
def lines (t : Tally) : List String :=
  let name := t.event.series
  let labels := labelText t.event
  match t.event.elapsed? with
  | none => [s!"{name}{labels} {t.count}"]
  | some _ => [s!"{name}_sum{labels} {secondsText t.elapsed}", s!"{name}_count{labels} {t.count}"]

/-- The kind of a series. -/
def kind (t : Tally) : String := if t.event.elapsed?.isSome then "summary" else "counter"

/-- The lines of several tallies, given the name of the series before them. -/
def linesAfter (before : String) : List Tally → List String
  | [] => []
  | t :: rest =>
    let name := t.event.series
    (if name = before then [] else [s!"# TYPE {name} {t.kind}"]) ++ t.lines ++ linesAfter name rest

/-- The text of some tallies, by name and labels. -/
def text (tallies : List Tally) : String :=
  String.join ((linesAfter "" (Text.sortBy (fun t => t.event.sortText) tallies)).map (· ++ "\n"))

example : text (addAll [] [.throttled "b", .finished "GET" "200" 1500000000, .throttled "b"]) =
    "# TYPE gateway_request_duration_seconds summary\n" ++
    "gateway_request_duration_seconds_sum\x7bmethod=\"GET\",status=\"200\"\x7d 1.5\n" ++
    "gateway_request_duration_seconds_count\x7bmethod=\"GET\",status=\"200\"\x7d 1\n" ++
    "# TYPE gateway_requests_throttled_total counter\n" ++
    "gateway_requests_throttled_total\x7broute=\"b\"\x7d 2\n" := by decide +kernel

end Tally

end Turnstile
