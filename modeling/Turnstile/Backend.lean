import Turnstile.Http.Reply
import Turnstile.Log.Line
import Turnstile.Text.Numeral
import Turnstile.Text.Percent
import Turnstile.Text.Split
/-!
  A sample service to stand behind the gateway.

  It has two families of endpoints, `/test` and `/breaker`, that answer well, badly, late, by chance
  or not at all.  Each family numbers the requests that reach its endpoints, from one on.  A request
  that is refused before it reaches an endpoint, because there is none, or it does not read, or its
  query is malformed, takes no number.

  Serving is a function of the counters, the request, the wall clock and, for the endpoints that
  answer by chance, a coin.
-/

namespace Turnstile

/-- The endpoints of the service. -/
inductive Endpoint where
  | normal
  | slow
  | error
  | random
  | timeout
  | headers
  | breakerSlow
  | breakerError
  | breakerRandom
  | breakerTimeout
  deriving DecidableEq, Repr

namespace Endpoint

/-- The path of an endpoint. -/
def path : Endpoint → String
  | normal => "/test/normal"
  | slow => "/test/slow"
  | error => "/test/error"
  | random => "/test/random"
  | timeout => "/test/timeout"
  | headers => "/test/headers"
  | breakerSlow => "/breaker/slow"
  | breakerError => "/breaker/error"
  | breakerRandom => "/breaker/random"
  | breakerTimeout => "/breaker/timeout"

/-- All endpoints. -/
def all : List Endpoint :=
  [normal, slow, error, random, timeout, headers, breakerSlow, breakerError, breakerRandom,
    breakerTimeout]

/-- The endpoint at a path. -/
def at? (path : String) : Option Endpoint := all.find? fun e => e.path == path

/-- Whether an endpoint belongs to the family with a numbering of its own. -/
def isBreaker : Endpoint → Bool
  | breakerSlow | breakerError | breakerRandom | breakerTimeout => true
  | _ => false

/-- The milliseconds that an endpoint waits unless it is told how long, if it waits at all. -/
def defaultDelay? : Endpoint → Option Nat
  | slow => some 100
  | timeout => some 5000
  | breakerSlow => some 3000
  | _ => none

end Endpoint

/-! ## Queries -/

open Text in
/-- Name or value in a query: a plus is a space, and what is percent-encoded is decoded. -/
def formText (t : List Char) : String :=
  decodeLossy (Percent.decode (encode (t.map fun c => if c = '+' then ' ' else c)))

open Text in
/-- The names and values that a query lists. -/
def formFields (query : String) : List (String × String) :=
  ((split '&' query.toList).filter (!·.isEmpty)).map fun piece =>
    match cut '=' piece with
    | some (name, value) => (formText name, formText value)
    | none => (formText piece, "")

/-- The delay that some fields ask for, given the one that the fields before them asked for. -/
def delayAmong (found : Option Nat) : List (String × String) → Except String (Option Nat)
  | [] => .ok found
  | (name, value) :: rest =>
    if name = "delay" then
      match found with
      | some _ => .error "duplicate field \x60delay\x60"
      | none =>
        match Text.numeral Text.bound64 value.toList with
        | .ok n => delayAmong (some n) rest
        | .error e => .error ("delay: " ++ e.message)
    else delayAmong found rest

/-- The delay that a query asks for, in milliseconds. -/
def queryDelay (query : Option String) : Except String (Option Nat) :=
  delayAmong none (formFields (query.getD ""))

/-! ## Documents -/

/-- The document with which an endpoint answers. -/
def backendDocument (ok : Bool) (message : String) (number : Nat) (delay : Option Nat)
    (wall : Nat) : Json :=
  .object <|
    [("status", .string (if ok then "success" else "error")),
     ("message", .string message),
     ("request_id", .number number)] ++
    (match delay with
      | some ms => [("delay", .number ms)]
      | none => []) ++
    [("timestamp", .number wall)]

/-- The names of some fields, each once and in order, with the values of each in one text. -/
def echoedFields (h : Headers) : List (String × Json) :=
  let sorted := Headers.sorted h
  (sorted.map (·.1)).eraseDups.map fun name =>
    (name, .string (", ".intercalate
      ((Headers.getAll sorted name).map fun v => Text.decodeLossy v.bytes)))

/-- The document that shows a client the fields it sent. -/
def echoDocument (number : Nat) (h : Headers) : Json :=
  .object [("request_id", .number number), ("headers", .object (echoedFields h))]

/-! ## Serving -/

/-- The service, with the numbers of the requests that were last numbered. -/
structure Backend where
  /-- The longest time, in milliseconds, that a client can make an endpoint wait. -/
  maxDelay : Nat
  numbered : Nat
  breakerNumbered : Nat
  deriving DecidableEq, Repr

/-- What comes of a request to the service. -/
inductive BackendReply where
  /-- An answer after some milliseconds. -/
  | after (delay : Nat) (response : Response)
  | never
  deriving DecidableEq, Repr

namespace Backend

/-- The service before its first request. -/
def start (maxDelay : Nat) : Backend := ⟨maxDelay, 0, 0⟩

/-- The delay that a client gets for the one it asks for. -/
def clampDelay (b : Backend) (requested : Nat) : Nat := min requested b.maxDelay

/-- Takes the next number of an endpoint's family. -/
def next (b : Backend) (e : Endpoint) : Nat × Backend :=
  if e.isBreaker then
    (b.breakerNumbered + 1, { b with breakerNumbered := b.breakerNumbered + 1 })
  else (b.numbered + 1, { b with numbered := b.numbered + 1 })

/-- What an endpoint does with a request, given its number. -/
def answer (e : Endpoint) (number delay : Nat) (coin : Bool) (wall : Nat) (h : Headers) :
    BackendReply :=
  let say (ok : Bool) (message : String) : BackendReply :=
    .after 0 (.json (if ok then 200 else 500) (backendDocument ok message number none wall))
  let sayLate (message : String) : BackendReply :=
    .after delay (.json 200 (backendDocument true message number (some delay) wall))
  match e with
  | .normal => say true "Backend service is healthy!"
  | .slow => sayLate "Slow response completed"
  | .error => say false "Simulated backend service failure!"
  | .random => if coin then say false "Random failure occurred" else say true "Random success"
  | .timeout => sayLate "Request completed (but likely timed out)"
  | .headers => .after 0 (.json 200 (echoDocument number h))
  | .breakerSlow => sayLate "Slow response completed!"
  | .breakerError => say false "Simulated backend service error!"
  | .breakerRandom =>
    if coin then say false "Random failure occurred!" else say true "Random request succeeded!"
  | .breakerTimeout => .never

/-- The delay of an endpoint for a query, or why the query is refused. -/
def delayFor (b : Backend) (e : Endpoint) (query : Option String) : Except String Nat :=
  match e.defaultDelay? with
  | none => .ok 0
  | some standard => (queryDelay query).map fun asked => b.clampDelay (asked.getD standard)

/-- The answer to a malformed query. -/
def badQuery (reason : String) : Response :=
  .plain 400 ("Failed to deserialize query string: " ++ reason)

/-- A reply as the method wants it. -/
def finish (method : String) : BackendReply → BackendReply
  | .after delay a => .after delay (.ofRoute method a)
  | .never => .never

/-- What a request comes to before its endpoint answers. -/
inductive Call where
  /-- No endpoint gets it. -/
  | refused (response : Response)
  /-- An endpoint gets it, under a number and with the delay that it is to wait. -/
  | taken (e : Endpoint) (number delay : Nat)
  deriving DecidableEq, Repr

/-- Brings a request to its endpoint. -/
def call (b : Backend) (r : Request) : Call × Backend :=
  match Endpoint.at? r.uri.path with
  | none => (.refused (.unknown r.uri.path), b)
  | some e =>
    if !isReading r.method then (.refused .onlyReading, b)
    else match b.delayFor e r.uri.query with
      | .error reason => (.refused (.ofRoute r.method (badQuery reason)), b)
      | .ok delay =>
        let (number, b) := b.next e
        (.taken e number delay, b)

/-- What comes of a call. -/
def reply (coin : Bool) (wall : Nat) (r : Request) : Call → BackendReply
  | .refused response => .after 0 response
  | .taken e number delay => finish r.method (answer e number delay coin wall r.headers)

/-- Serves a request. -/
def serve (coin : Bool) (wall : Nat) (b : Backend) (r : Request) : BackendReply × Backend :=
  let (c, b) := b.call r
  (reply coin wall r c, b)

/-! ## Log lines -/

/-- How important it is that an endpoint gets a request, and what is said of it, if anything is. -/
def remark? (e : Endpoint) (coin : Bool) : Option (LogLevel × String) :=
  match e with
  | .normal => some (.info, "Normal request received")
  | .slow => some (.info, "Slow request received")
  | .error => some (.error, "Error request received, simulating failure")
  | .random =>
    some (if coin then (.warn, "Random request failing") else (.info, "Random request succeeding"))
  | .timeout => some (.warn, "Timeout test initiated")
  | .headers => none
  | .breakerSlow => some (.info, "Breaker slow request received")
  | .breakerError => some (.error, "Breaker error request received, simulating failure")
  | .breakerRandom =>
    some (if coin then (.warn, "Breaker random request failing")
      else (.info, "Breaker random request succeeding"))
  | .breakerTimeout => some (.warn, "Breaker timeout request received, never responding")

/-- The line that is logged of a call, if there is one. -/
def line? (coin : Bool) : Call → Option LogLine
  | .refused _ => none
  | .taken e number delay =>
    (remark? e coin).map fun (level, message) =>
      ⟨level, "gateway_sample::backend::handlers", message,
        ("request_id", .number number) ::
          (if e.defaultDelay?.isSome then [("delay_ms", .number delay)] else [])⟩

end Backend

end Turnstile
