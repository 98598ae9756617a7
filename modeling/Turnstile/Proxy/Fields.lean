import Turnstile.Http.Message
import Turnstile.Text.Split
/-!
  The header fields that a proxy passes on.

  Some fields speak about one connection only: nine of them always, and those that a `Connection`
  field names.  They are not passed on, in either direction, and neither is the length of the body,
  which the proxy determines anew.  A request is further told apart from the proxy's own by
  `X-Forwarded-For`, which grows by the peer, and `X-Forwarded-Host`, which holds the host that was
  asked for.
-/

namespace Turnstile.Proxy

open Text

/-- The fields that always concern one connection only. -/
def hopByHop : List String :=
  ["connection", "keep-alive", "proxy-authenticate", "proxy-authorization", "proxy-connection",
    "te", "trailer", "transfer-encoding", "upgrade"]

/-- The names that the `Connection` fields list, in lower case. -/
def connectionTokens (h : Headers) : List (List Char) :=
  (((Headers.getAll h "connection").filterMap HeaderValue.text?).flatMap fun t =>
    (split ',' t).map fun token => lower (trim token)).filter (!·.isEmpty)

/-- Whether a field is passed on by a proxy. -/
def isEndToEnd (tokens : List (List Char)) (name : String) : Bool :=
  name ∉ hopByHop && name != "content-length" && name.toList ∉ tokens

/-- The fields that are passed on. -/
def endToEnd (h : Headers) : Headers :=
  let tokens := connectionTokens h
  h.filter fun f => isEndToEnd tokens f.1

/-- The name of the field that lists the addresses a request came through. -/
def forwardedForName : String := "x-forwarded-for"

/-- The name of the field that holds the host that the client asked for. -/
def forwardedHostName : String := "x-forwarded-host"

/-- The addresses a request came through, with the peer at the end. -/
def forwardedFor (h : Headers) (peer : IpAddr) : HeaderValue :=
  match Headers.text? h forwardedForName with
  | some t =>
    if (trim t).isEmpty then .ofText peer.text else .ofText (t ++ ", ".toList ++ peer.text)
  | none => .ofText peer.text

/-- The fields of the request that goes to a destination. -/
def requestFields (h : Headers) (peer : Option IpAddr) : Headers :=
  let kept := endToEnd h
  let host := Headers.get? kept "host"
  let kept := Headers.erase kept "host"
  let kept := match peer with
    | some a => Headers.insert kept forwardedForName (forwardedFor h a)
    | none => kept
  match host with
  | some v =>
    if (Headers.get? kept forwardedHostName).isNone then Headers.insert kept forwardedHostName v
    else kept
  | none => kept

end Turnstile.Proxy
