import Turnstile.Fault
import Turnstile.Filter.Basic
import Turnstile.Proxy.Destination
import Turnstile.Proxy.Fields
/-!
  Forwarding a request and relaying the answer.

  A body is read as a whole first.  One over the limit is refused before the destination is
  contacted, whether its length is declared or found out, and so is one that does not come to its
  end.  Otherwise the destination is sent one request, and its answer goes back with the same status
  and body.  If there is no answer, that is measured once, by the kind of the failure, and the
  client gets the fallback document.

  The network is a parameter: a function from what is sent to what comes back.
-/

namespace Turnstile

/-- Why no answer came from a destination. -/
inductive FailureKind where
  /-- No connection could be made. -/
  | connect
  /-- The answer did not come in time. -/
  | timeout
  /-- The connection broke, or what came over it was no answer. -/
  | transport
  deriving DecidableEq, Inhabited, Repr

/-- The name under which a failure is measured. -/
def FailureKind.name : FailureKind → String
  | .connect => "connect"
  | .timeout => "timeout"
  | .transport => "transport"

/-- A failure to reach the named route's destination. -/
def FailureKind.fault (route : String) (kind : FailureKind) : Fault :=
  let detail := route ++ ": " ++ kind.name
  match kind with
  | .timeout => .timedOut detail
  | _ => .unavailable detail

/-- A request to a destination. -/
structure Outbound where
  method : String
  url : Url
  headers : Headers
  body : Bytes
  deriving DecidableEq, Repr

/-- What comes back from a destination. -/
inductive Exchange where
  | answered (response : Response)
  | failed (kind : FailureKind)
  deriving DecidableEq, Inhabited, Repr

/-- What sends requests to destinations.  It may take time. -/
abbrev Network (σ : Type) := Outbound → Scene σ → Exchange × Scene σ

/-- The network in which every connection is refused. -/
def Network.refusing {σ : Type} : Network σ := fun _ s => (.failed .connect, s)

/-- How the body of a request ends, after the bytes that have come. -/
inductive BodyEnd where
  /-- That was the whole body. -/
  | complete
  /-- There should be more, but none comes, for a reason. -/
  | broken (reason : String)
  deriving DecidableEq, Repr

namespace Proxy

/-- The length of the body that the first `Content-Length` declares. -/
def declaredLength? (h : Headers) : Option Nat :=
  (Headers.text? h "content-length").bind fun t =>
    match Text.numeral Text.bound64 (Text.trim t) with
    | .ok n => some n
    | .error _ => none

/-- The fault of a body that cannot be read as a whole.  It counts as too large, whatever the
reason is. -/
def unread (reason : String) : Fault := .bodyTooLarge ("failed to buffer body: " ++ reason)

/-- The fault of a body that turns out to be too large while it is read. -/
def overrun : Fault := unread "length limit exceeded"

/-- Why a body is too large, if it is. -/
def oversize? (limit : Nat) (r : Request) : Option Fault :=
  match declaredLength? r.headers with
  | some n =>
    if limit < n then some (.bodyTooLarge s!"{n} bytes exceeds limit of {limit}")
    else if limit < r.body.length then some overrun
    else none
  | none => if limit < r.body.length then some overrun else none

/-- Why a body is not sent on, if it is not.  One that breaks off beyond the limit is not read so
far. -/
def refusal? (limit : Nat) (ending : BodyEnd) (r : Request) : Option Fault :=
  match oversize? limit r with
  | some fault => some fault
  | none =>
    match ending with
    | .complete => none
    | .broken reason => some (unread reason)

/-- The request that goes to a destination in place of `r`. -/
def outbound (d : Destination) (r : Request) : Outbound :=
  ⟨r.method, d.urlFor r.uri, requestFields r.headers r.peer, r.body⟩

/-- Whether a URL can be asked over HTTP: it has a scheme for that, and is a request target without
its user name and password. -/
def isAskable (u : Url) : Bool :=
  Url.isHttp u.scheme && (Uri.parseChars { u with username := [], password := [] }.text).toBool

/-- Sends a request to a destination, which is not contacted if its URL cannot be asked. -/
def exchange {σ : Type} (net : Network σ) (d : Destination) (r : Request) (s : Scene σ) :
    Exchange × Scene σ :=
  if isAskable (d.urlFor r.uri) then net (outbound d r) s else (.failed .transport, s)

/-- An answer as it is relayed to the client. -/
def relayed (a : Response) : Response := { a with headers := endToEnd a.headers }

/-- Forwards a request whose body may have up to `limit` bytes. -/
def forward {σ : Type} (limit : Nat) (net : Network σ) (d : Destination) (ending : BodyEnd)
    (r : Request) (s : Scene σ) : Except Fault Response × Scene σ :=
  match refusal? limit ending r with
  | some fault => (.error fault, s)
  | none =>
    match exchange net d r s with
    | (.answered a, s) => (.ok (relayed a), s)
    | (.failed kind, s) => (.error (kind.fault d.name), s.measure [.destinationFailed kind.name])

/-- The stage that forwards requests whose bodies end in a way, and answers for a destination that
does not. -/
def stageFor {σ : Type} (ending : BodyEnd) (limit : Nat) (net : Network σ) (d : Destination) :
    Stage σ := fun r s =>
  match forward limit net d ending r s with
  | (.ok a, s) => (.answered a, s)
  | (.error fault, s) => (.answered (fault.response s.wall), s)

/-- The stage for requests that are there as a whole. -/
def stage {σ : Type} (limit : Nat) (net : Network σ) (d : Destination) : Stage σ :=
  stageFor .complete limit net d

end Proxy

end Turnstile
