import Turnstile.HostGlob
import Turnstile.Measurement
import Turnstile.RateLimit.Gate
import Turnstile.Throttle
/-!
  Filters, and chains of them.

  A filter sees a request before what stands behind it and the outcome after it.  It either answers
  the request itself, and then nothing behind it is touched, or it passes the request on, once.
  There are five kinds.  A throttle and a rate gate admit by their own state; a host filter admits
  by the host that is asked for; a timing filter reports how long the rest took; a request-id filter
  names the request, for what stands behind it and in the response.

  `Filter.serveThrough` runs a chain, outermost filter first.  It is a function: the state of the
  filters, the clock and what has been recorded go in and come out.  The clock is part of the
  `Scene`, since what stands behind a chain takes time.
-/

namespace Turnstile

/-- One filter, with the state that it keeps between requests. -/
inductive Filter where
  /-- Admits while the bucket of the named route has tokens. -/
  | throttle (route : String) (bucket : Bucket)
  | rateGate (gate : RateGate)
  | timing
  | host (glob : HostGlob)
  | requestId
  deriving DecidableEq, Repr

/-- What comes of a request. -/
inductive Outcome where
  | answered (response : Response)
  | failed (reason : String)
  /-- No answer comes, and the request is given up. -/
  | abandoned
  deriving DecidableEq, Repr

/-- What a timing filter says about a request that has come to its end. -/
structure Completion where
  method : String
  path : String
  /-- The status of the response, if there was one. -/
  status : Option Nat
  /-- The nanoseconds from the arrival of the request to its end. -/
  elapsed : Nat
  deriving DecidableEq, Repr

namespace Completion

/-- The status in words. -/
def statusText (c : Completion) : String :=
  match c.status with
  | some status => toString status
  | none => "none"

/-- The line that reports a completion. -/
def message (c : Completion) : String :=
  s!"[{c.method}] {c.path} completed in {Duration.millis c.elapsed}ms"

/-- The whole milliseconds, in 64 bits. -/
def elapsedMillis (c : Completion) : Nat := Duration.millis c.elapsed % 0x10000000000000000

/-- What is measured of a completion. -/
def measurement (c : Completion) : Measurement := .finished c.method c.statusText c.elapsed

end Completion

/-- The clock, what has been recorded so far, and the state of what stands behind a chain. -/
structure Scene (σ : Type) where
  /-- Nanoseconds of the clock that never goes back. -/
  now : Nat
  /-- Milliseconds of the wall clock. -/
  wall : Nat
  measured : List Measurement
  completions : List Completion
  behind : σ

namespace Scene

/-- Adds measurements. -/
def measure {σ : Type} (s : Scene σ) (events : List Measurement) : Scene σ :=
  { s with measured := s.measured ++ events }

/-- Adds a completion, and what is measured of it. -/
def complete {σ : Type} (s : Scene σ) (c : Completion) : Scene σ :=
  { s with completions := s.completions ++ [c], measured := s.measured ++ [c.measurement] }

/-- Moves the clock on. -/
def advance {σ : Type} (s : Scene σ) (time : Nat) : Scene σ := { s with now := s.now + time }

end Scene

/-- What stands behind a chain. -/
abbrev Stage (σ : Type) := Request → Scene σ → Outcome × Scene σ

namespace Filter

/-! ## One filter -/

/-- The header field that names a request. -/
def requestIdName : String := "x-request-id"

/-- The name of a request: the first one that the client gave, if it is visible text and not blank,
and otherwise `fresh`. -/
def requestIdFor (fresh : HeaderValue) (h : Headers) : HeaderValue :=
  match Headers.get? h requestIdName with
  | some v =>
    match v.text? with
    | some t => if (Text.trim t).isEmpty then fresh else v
    | none => fresh
  | none => fresh

/-- The answer with which a filter keeps a request from what is behind it, if it does; the filter
after the request; and what is measured. -/
def judge (now : Nat) (r : Request) : Filter → Option Response × Filter × List Measurement
  | throttle route bucket =>
    let (taken, bucket) := bucket.take now
    if taken then (none, throttle route bucket, [])
    else (some (.bare 429), throttle route bucket, [.throttled route])
  | rateGate gate =>
    match gate.check now r with
    | (.admitted, gate) => (none, rateGate gate, [])
    | (.refused wait, gate) =>
      (some (gate.refusal wait), rateGate gate, [.rateLimited gate.rule.name])
  | timing => (none, timing, [])
  | host glob =>
    match r.host? with
    | some h => if glob.accepts h then (none, host glob, []) else (some (.bare 404), host glob, [])
    | none => (some (.bare 404), host glob, [])
  | requestId => (none, requestId, [])

/-- The request as a filter passes it on. -/
def passedOn (fresh : HeaderValue) (r : Request) : Filter → Request
  | requestId =>
    { r with headers := Headers.insert r.headers requestIdName (requestIdFor fresh r.headers) }
  | _ => r

/-- The outcome as a filter hands it back. -/
def handedBack (fresh : HeaderValue) (r : Request) (o : Outcome) : Filter → Outcome
  | requestId =>
    match o with
    | .answered a =>
      .answered { a with
        headers := Headers.insert a.headers requestIdName (requestIdFor fresh r.headers) }
    | o => o
  | _ => o

/-- What a filter records of a request that arrived at `start`, once it has come to its end. -/
def recorded {σ : Type} (r : Request) (start : Nat) (o : Outcome) (s : Scene σ) :
    Filter → Scene σ
  | timing =>
    let status := match o with
      | .answered a => some a.status
      | _ => none
    s.complete ⟨r.method, r.uri.path, status, s.now - start⟩
  | _ => s

/-! ## Chains -/

/-- Serves a request through filters, outermost first, in front of a stage.  Gives what comes of it,
the filters after it, and the scene after it. -/
def serveThrough {σ : Type} (fresh : HeaderValue) (stage : Stage σ) :
    List Filter → Request → Scene σ → Outcome × List Filter × Scene σ
  | [], r, s =>
    let (o, s) := stage r s
    (o, [], s)
  | f :: rest, r, s =>
    match f.judge s.now r with
    | (some answer, f', events) => (.answered answer, f' :: rest, s.measure events)
    | (none, f', events) =>
      let (o, rest', s') := serveThrough fresh stage rest (f.passedOn fresh r) (s.measure events)
      (f.handedBack fresh r o, f' :: rest', f.recorded r s.now o s')

/-- Forgets, in the first rate gate of a chain, the keys that behave like new ones. -/
def pruneFirst (now : Nat) : List Filter → List Filter
  | [] => []
  | rateGate gate :: rest => rateGate (gate.prune now) :: rest
  | f :: rest => f :: pruneFirst now rest

/-- The first rate gate of a chain. -/
def firstGate? : List Filter → Option RateGate
  | [] => none
  | rateGate gate :: _ => some gate
  | _ :: rest => firstGate? rest

end Filter

end Turnstile
